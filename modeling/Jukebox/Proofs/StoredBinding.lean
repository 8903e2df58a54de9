import Jukebox.Playback.Rehearsal
import Jukebox.Proofs.Dispatch
import Jukebox.Proofs.Observed
import Jukebox.Proofs.Scanning

/-
# What a binding stores

A binding keeps the command line that it stands for in the form of its tokens, written down one after
another. Whatever quotes and blanks the line had when the key was bound, the line that is run when the
key is pressed has the same tokens.
-/

namespace Jukebox

namespace Token

/-- What comes in a line can be written down, except for stray tokens and the end. -/
theorem written_of_mem_ofLine {line : String} {token : Token} (h : token ∈ ofLine line)
    (hstray : ∀ text, token ≠ .stray text) (hend : token ≠ .endOfLine) : token.Written := by
  cases token with
  | word text => exact .word (isWord_of_mem_scan h)
  | quoted text => exact .quoted text
  | stray text => exact absurd rfl (hstray text)
  | endOfLine => exact absurd rfl hend

end Token

namespace Command

open Token

variable {σ : Type} {session : Session σ} {keys : List Key}

/-- Once the key sequence is read, any token but a stray one is kept as it is written. -/
theorem read_bindingWords {kept : List String} {token : Token} {after : BindingWords} :
    bindingWords.read session (⟨some keys, kept⟩ : BindingWords) token = .ok after ↔
      (∀ text, token ≠ .stray text) ∧ after = ⟨some keys, kept ++ [token.source]⟩ := by
  cases token with
  | stray text => exact ⟨nofun, fun h => absurd rfl (h.1 text)⟩
  | word _ | quoted _ | endOfLine =>
    exact ⟨fun h => ⟨nofun, (Except.ok.inj h).symm⟩, fun h => congrArg Except.ok h.2.symm⟩

theorem foldlM_bindingWords {kept : List String} {tokens : List Token} {after : BindingWords} :
    tokens.foldlM (bindingWords.read session) (⟨some keys, kept⟩ : BindingWords) = .ok after ↔
      (∀ text, .stray text ∉ tokens) ∧ after = ⟨some keys, kept ++ tokens.map source⟩ := by
  induction tokens generalizing kept with
  | nil =>
    constructor
    · intro h
      exact ⟨nofun, (Except.ok.inj h).symm.trans (by rw [List.map_nil, List.append_nil])⟩
    · rintro ⟨-, rfl⟩
      rw [List.map_nil, List.append_nil]
      rfl
  | cons token tokens ih =>
    have hmem : (∀ text, Token.stray text ∉ token :: tokens) ↔
        (∀ text, token ≠ .stray text) ∧ ∀ text, Token.stray text ∉ tokens := by
      simp only [List.mem_cons, not_or, forall_and, ne_comm, ne_eq]
    rw [hmem, List.map_cons, List.append_cons]
    constructor
    · intro h
      obtain ⟨next, hread, hrest⟩ := bind_eq_ok_iff.1 h
      obtain ⟨htoken, rfl⟩ := read_bindingWords.1 hread
      obtain ⟨htokens, rfl⟩ := ih.1 hrest
      exact ⟨⟨htoken, htokens⟩, rfl⟩
    · rintro ⟨⟨htoken, htokens⟩, rfl⟩
      exact bind_eq_ok_iff.2 ⟨_, read_bindingWords.2 ⟨htoken, rfl⟩, ih.2 ⟨htokens, rfl⟩⟩

theorem result_bindingWords {kept : List String} {value : List Key × String} :
    (bindingWords (σ := σ)).result (⟨some keys, kept⟩ : BindingWords) = .ok value ↔
      kept ≠ [] ∧ value = (keys, String.intercalate " " kept) := by
  cases kept with
  | nil => exact ⟨nofun, fun h => absurd rfl h.1⟩
  | cons first kept =>
    exact ⟨fun h => ⟨List.cons_ne_nil first kept, (Except.ok.inj h).symm⟩,
      fun h => congrArg Except.ok h.2.symm⟩

/-- A binding is read from a key sequence and one token at least, none of them stray. -/
theorem readLine_bindingWords {words : List Token} {line : String} :
    bindingWords.readLine session words = .ok (keys, line) ↔
      ∃ key tokens, words = key :: tokens ∧ keySequence key = .ok keys ∧ tokens ≠ [] ∧
        (∀ text, .stray text ∉ tokens) ∧ line = String.intercalate " " (tokens.map source) := by
  constructor
  · intro h
    obtain ⟨binding, hwords, hresult⟩ := bind_eq_ok_iff.1 h
    cases words with
    | nil =>
      cases hwords
      cases hresult
    | cons key tokens =>
      obtain ⟨first, hfirst, htokens⟩ := bind_eq_ok_iff.1 hwords
      obtain ⟨keys', hkey, rfl⟩ := map_eq_ok_iff.1 hfirst
      obtain ⟨hstray, rfl⟩ := foldlM_bindingWords.1 htokens
      obtain ⟨hne, heq⟩ := result_bindingWords.1 hresult
      obtain ⟨rfl, rfl⟩ := Prod.mk.inj heq
      exact ⟨key, tokens, rfl, hkey, List.map_eq_nil_iff.not.1 hne, hstray, rfl⟩
  · rintro ⟨key, tokens, rfl, hkey, hne, hstray, rfl⟩
    have hfirst : bindingWords.read session ({} : BindingWords) key = .ok ⟨some keys, []⟩ :=
      map_eq_ok_iff.2 ⟨keys, hkey, rfl⟩
    have hwords : (key :: tokens).foldlM (bindingWords.read session) ({} : BindingWords) =
        .ok ⟨some keys, tokens.map source⟩ :=
      bind_eq_ok_iff.2 ⟨_, hfirst, foldlM_bindingWords.2 ⟨hstray, rfl⟩⟩
    exact bind_eq_ok_iff.2 ⟨_, hwords, result_bindingWords.2 ⟨List.map_eq_nil_iff.not.2 hne, rfl⟩⟩

theorem keySequence_eq_ok_iff {token : Token} (hstray : ∀ text, token ≠ .stray text)
    (hend : token ≠ .endOfLine) :
    keySequence token = .ok keys ↔ Key.readSequence? token.text = some keys := by
  cases token with
  | stray text => exact absurd rfl (hstray text)
  | endOfLine => exact absurd rfl hend
  | word text | quoted text =>
    simp only [keySequence, Token.text]
    cases Key.readSequence? text with
    | none => exact ⟨nofun, nofun⟩
    | some found =>
      exact ⟨fun h => congrArg some (Except.ok.inj h), fun h => congrArg _ (Option.some.inj h)⟩

/-- The line that a binding stores has the tokens that were read for it. -/
theorem ofLine_stored {line stored : String} {words : List Token}
    (hline : ∀ word ∈ words, word ∈ ofLine line) (hend : Token.endOfLine ∉ words)
    (hread : bindingWords.readLine session words = .ok (keys, stored)) :
    ∃ key tokens, words = key :: tokens ∧ keySequence key = .ok keys ∧
      ofLine stored = tokens ++ [.endOfLine] := by
  obtain ⟨key, tokens, rfl, hkey, -, hstray, rfl⟩ := readLine_bindingWords.1 hread
  rw [List.mem_cons, not_or] at hend
  refine ⟨key, tokens, rfl, hkey, ofLine_intercalate_source fun token htoken => ?_⟩
  have hmem := hline token (List.mem_cons_of_mem key htoken)
  exact written_of_mem_ofLine hmem (fun text heq => hstray text (heq ▸ htoken))
    fun heq => hend.2 (heq ▸ htoken)

end Command

section Binding

open Token

variable {σ : Type} [Service σ] {dispatcher : Dispatcher (Session σ)} {line : String}
variable {words : List Token}

/-- A line that begins with `bind` is refused, or its binding is put into the keymap. -/
theorem Dispatcher.Offers.dispatch_bind (hoffers : dispatcher.Offers Command.builtin)
    (hline : ofLine line = .word "bind" :: (words ++ [.endOfLine])) (session : Session σ) :
    (∃ error, Command.bindingWords.readLine session words = .error error ∧
      (dispatcher.dispatch line session).1 = .error (.command error)) ∨
    ∃ keys stored, Command.bindingWords.readLine session words = .ok (keys, stored) ∧
      (dispatcher.dispatch line session).1 = .ok () ∧
      (dispatcher.dispatch line session).2.2 =
        { session with keymap := session.keymap.insert keys stored } := by
  have hmem : ("bind", Command.bindKeys) ∈
      (Command.builtin : List (String × Command (Session σ))) := by simp [Command.builtin]
  obtain ⟨read, heq, ⟨error, hread, herror, -⟩ | ⟨⟨keys, stored⟩, hread, hresult, hafter⟩⟩ :=
    hoffers.dispatch_simple Dispatcher.nodup_names_builtin hmem hline session
  · obtain rfl : words = read := List.append_cancel_right heq
    exact .inl ⟨error, hread, herror⟩
  · obtain rfl : words = read := List.append_cancel_right heq
    rw [run_run_modify] at hresult hafter
    exact .inr ⟨keys, stored, hread, hresult, hafter⟩

/-- A line that begins with `bind` and a key sequence that is one token goes on with the tokens of
its rest. -/
theorem ofLine_bind {keyText : String} {key : Token} (hkey : ofLine keyText = [key, .endOfLine])
    (hstray : ∀ text, key ≠ .stray text) (rest : String) :
    ofLine ("bind " ++ keyText ++ " " ++ rest) = .word "bind" :: key :: ofLine rest := by
  have hbind : ofLine "bind" = [.word "bind"] ++ [.endOfLine] := scan_word (by decide)
  have hkeyText : ofLine keyText = [key] ++ [.endOfLine] := hkey
  have hline : "bind " ++ keyText ++ " " ++ rest = "bind" ++ " " ++ (keyText ++ " " ++ rest) := by
    simp only [← String.append_assoc]
    rfl
  have hnone : ∀ text, Token.stray text ∉ [Token.word "bind"] := by simp
  have hno : ∀ text, Token.stray text ∉ [key] := fun text hmem =>
    hstray text (List.mem_singleton.1 hmem).symm
  rw [hline, ofLine_append_blank hbind hnone, ofLine_append_blank hkeyText hno]
  rfl

/-- Where a binding is made, the line that is stored for the key sequence has the tokens of the rest
of the line, and no other sequence is bound otherwise than before. The line is made of the tokens as
they are written, and any tokens are read back from that, whatever texts the quoted ones hold. -/
theorem stored_binding_replays (σ : Type) [Service σ] :
    (∀ (dispatcher : Dispatcher (Session σ)) (session : Session σ) (keyText rest : String)
      (key : Token), dispatcher.Offers Command.builtin →
      ofLine keyText = [key, .endOfLine] → (∀ text, key ≠ .stray text) →
      (dispatcher.dispatch ("bind " ++ keyText ++ " " ++ rest) session).1 = .ok () →
      let after := (dispatcher.dispatch ("bind " ++ keyText ++ " " ++ rest) session).2.2
      ∃ keys stored, Key.readSequence? key.text = some keys ∧
        after.keymap.get? keys = some stored ∧ ofLine stored = ofLine rest ∧
        ∀ other, other ≠ keys → after.keymap.get? other = session.keymap.get? other) ∧
    ∀ tokens : List Token,
      (∀ token ∈ tokens, (∃ text, token = .quoted text) ∨
        ∃ text line, token = .word text ∧ token ∈ ofLine line) →
      ofLine (String.intercalate " " (tokens.map source)) = tokens ++ [.endOfLine] := by
  constructor
  · intro dispatcher session keyText rest key hoffers hkeyText hstray hok after
    obtain ⟨words, hrest, hend⟩ := exists_scan_eq rest.toList
    have hline : ofLine ("bind " ++ keyText ++ " " ++ rest) =
        .word "bind" :: ((key :: words) ++ [.endOfLine]) :=
      (ofLine_bind hkeyText hstray rest).trans (congrArg (fun rest => _ :: key :: rest) hrest)
    rcases hoffers.dispatch_bind hline session with
      ⟨error, -, herror⟩ | ⟨keys, stored, hread, -, hafter⟩
    · cases hok.symm.trans herror
    · have hwords : ∀ word ∈ key :: words, word ∈ ofLine ("bind " ++ keyText ++ " " ++ rest) :=
        fun word hword => hline ▸ List.mem_cons_of_mem _ (List.mem_append_left _ hword)
      have hkey : key ≠ .endOfLine := by
        rintro rfl
        obtain ⟨read, hscan, hread⟩ := exists_scan_eq keyText.toList
        rw [ofLine, hscan] at hkeyText
        obtain rfl : read = [.endOfLine] := List.append_cancel_right (hkeyText : _ = [_] ++ [_])
        exact hread List.mem_cons_self
      have hends : Token.endOfLine ∉ key :: words := by
        rw [List.mem_cons, not_or]
        exact ⟨hkey.symm, hend⟩
      obtain ⟨first, tokens, heq, hkeys, hstored⟩ := Command.ofLine_stored hwords hends hread
      obtain ⟨rfl, rfl⟩ := List.cons.inj heq
      have hkeymap : after.keymap = session.keymap.insert keys stored :=
        congrArg Session.keymap hafter
      refine ⟨keys, stored, (Command.keySequence_eq_ok_iff hstray hkey).1 hkeys, ?_,
        hstored.trans hrest.symm, fun other hother => ?_⟩
      · rw [hkeymap, Keymap.get?_insert, if_pos rfl]
      · rw [hkeymap, Keymap.get?_insert, if_neg hother]
  · intro tokens htokens
    refine ofLine_intercalate_source fun token htoken => ?_
    obtain ⟨text, rfl⟩ | ⟨text, line, rfl, hline⟩ := htokens token htoken
    · exact .quoted text
    · exact .word (isWord_of_mem_scan hline)

/-- The quoted name has a double quote, a backslash and two blanks, which all come back. -/
theorem binding_with_quotes_replays :
    let line := "bind " ++ "<C-x>" ++ " " ++ "add  'a \"b\" \\\\  c.flac'"
    let session : Session Rehearsal := { chance := .first }
    let after := (Dispatcher.standard.dispatch line session).2.2
    (Dispatcher.standard.dispatch line session).1 = .ok () ∧
    (∃ keys stored, Key.readSequence? "<C-x>" = some keys ∧ after.keymap.get? keys = some stored ∧
      ofLine stored = [.word "add", .quoted "a \"b\" \\  c.flac", .endOfLine]) ∧
    ofLine (String.intercalate " " ([.word "add", .quoted "'\\\""].map source)) =
      [.word "add", .quoted "'\\\"", .endOfLine] := by
  intro line session after
  have hok : (Dispatcher.standard.dispatch line session).1 = .ok () :=
    failure?_eq_none_iff.1 (by decide +kernel)
  obtain ⟨hreplays, hlaw⟩ := stored_binding_replays Rehearsal
  obtain ⟨keys, stored, hkeys, hget, hstored, -⟩ := hreplays .standard session "<C-x>" _ (.word "<C-x>")
    Dispatcher.offers_standard (scan_word (by decide)) nofun hok
  have hrest : ofLine "add  'a \"b\" \\\\  c.flac'" =
      [.word "add", .quoted "a \"b\" \\  c.flac", .endOfLine] := by decide +kernel
  exact ⟨hok, ⟨keys, stored, hkeys, hget, hstored.trans hrest⟩,
    hlaw [.word "add", .quoted "'\\\""] (by simpa using ⟨"add", by decide +kernel⟩)⟩

end Binding

end Jukebox
