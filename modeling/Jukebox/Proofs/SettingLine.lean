import Jukebox.Playback.Rehearsal
import Jukebox.Proofs.Collecting
import Jukebox.Proofs.Dispatch
import Jukebox.Script

/-
# Several assignments on a line

Assignments on one line come to the same as assignments on lines of their own, with one exception.
On one line all of them are read before any takes effect, so a switch that is to be turned over has
to be looked up among the assignments read so far. There names are compared without regard to the
case of ASCII letters, while the settings go by names in small letters of any script. Where the two
differ, an assignment is overlooked and the switch is turned over from an older value.

This takes a setting that is named with letters beyond ASCII, or with a k, for which there is a
second capital letter. The client has no such settings.
-/

namespace Jukebox

namespace Text

/-- A character of ASCII that only characters of ASCII have as their small form. The sign for a
degree Kelvin has the small form k. -/
def AsciiOnly (c : Char) : Prop := 0 < c.toNat ∧ c.toNat < 0x80 ∧ c ≠ 'k'

instance (c : Char) : Decidable (AsciiOnly c) := inferInstanceAs (Decidable (_ ∧ _))

theorem not_asciiOnly_ofNat {n : Nat} (h : 0x80 ≤ n) : ¬AsciiOnly (Char.ofNat n) := by
  by_cases hvalid : n.isValidChar
  · have hn : (Char.ofNat n).toNat = n := by
      rw [Char.ofNat, dif_pos hvalid]
      rfl
    exact fun hplain => absurd hplain.2.1 (by omega)
  · rw [Char.ofNat, dif_neg hvalid]
    decide

/-- No capital letter outside ASCII has such a small letter. -/
theorem not_asciiOnly_of_lower? {c : Char} {n : Nat} {block : CaseBlock} (hc : 0x80 ≤ c.toNat)
    (hblock : block ∈ caseBlocks) (h : block.lower? c.toNat = some n) :
    ¬AsciiOnly (Char.ofNat n) := by
  have hblocks : ∀ block ∈ caseBlocks, block.last < 0x80 ∨ 0x80 ≤ block.first + block.shift ∨
      block.first = block.last ∧ block.first + block.shift = 0x6B := by decide +kernel
  have hcases := hblocks block hblock
  unfold CaseBlock.lower? at h
  split at h
  · next hwithin =>
    simp only [Bool.and_eq_true, decide_eq_true_eq] at hwithin
    cases h
    rcases hcases with hlow | hhigh | ⟨hsingle, hkelvin⟩
    · omega
    · exact not_asciiOnly_ofNat (by omega)
    · have hn : (c.toNat + block.shift).toNat = 0x6B := by omega
      rw [hn]
      decide
  · cases h

theorem lowerChar_of_asciiOnly {c : Char} (h : ∀ small ∈ lowerChar c, AsciiOnly small) :
    lowerChar c = [c.toLower] := by
  unfold lowerChar at h ⊢
  split
  · rfl
  · next hascii =>
    rw [if_neg hascii] at h
    have hhigh : 0x80 ≤ c.toNat := Nat.le_of_not_lt hascii
    split at h
    · exact absurd (h (Char.ofNat 0x307) (by decide)) (by decide)
    · exfalso
      split at h
      · next n hn =>
        obtain ⟨block, hblock, hlower⟩ := List.exists_of_findSome?_eq_some hn
        exact not_asciiOnly_of_lower? hhigh hblock hlower (h _ (List.mem_singleton.2 rfl))
      · exact absurd (h c (List.mem_singleton.2 rfl)).2.1 hascii

theorem lowerFrom_of_asciiOnly {before rest : List Char}
    (h : ∀ small ∈ lowerFrom before rest, AsciiOnly small) :
    lowerFrom before rest = rest.map Char.toLower := by
  induction rest generalizing before with
  | nil => rfl
  | cons c rest ih =>
    unfold lowerFrom at h ⊢
    split at h
    · have hsigma := h _ List.mem_cons_self
      split at hsigma <;> exact absurd hsigma (by decide)
    · next hc =>
      rw [List.forall_mem_append] at h
      rw [if_neg hc, lowerChar_of_asciiOnly h.1, ih h.2]
      rfl

/-- Names that are found under such letters differ at most in the case of ASCII letters. -/
theorem sameIgnoringAsciiCase_of_lowercase_eq {a b : String} (h : lowercase a = lowercase b)
    (hascii : ∀ small ∈ (lowercase b).toList, AsciiOnly small) :
    sameIgnoringAsciiCase a b = true := by
  have hfirst : ∀ small ∈ lowerFrom [] a.toList, AsciiOnly small := by
    rwa [← h, lowercase, String.toList_ofList] at hascii
  have hsecond : ∀ small ∈ lowerFrom [] b.toList, AsciiOnly small := by
    rwa [lowercase, String.toList_ofList] at hascii
  refine beq_iff_eq.2 ?_
  rw [← lowerFrom_of_asciiOnly hfirst, ← lowerFrom_of_asciiOnly hsecond]
  exact String.ofList_injective h

end Text

namespace Command

open Text

variable {σ : Type}

section Spelling

variable {settings : Settings} {assigned : List (String × SettingValue)}

/-- How a setting was spelled last. -/
def lastSpelling? (names : List String) (name : String) : Option String :=
  names.reverse.find? fun other => lowercase other = lowercase name

/-- A switch that is turned over is spelled as it was last on the line, but for the case of ASCII
letters. -/
def SpelledAlike (settings : Settings) (list : List Assignment) : Prop :=
  ∀ before assignment after name, list = before ++ assignment :: after →
    assignment.meaning settings = (name, .turnOver) → settings.isRegistered name = true →
      ∀ other ∈ lastSpelling? (before.map fun earlier => (earlier.meaning settings).1) name,
        sameIgnoringAsciiCase other name = true

/-- What is found by a coarse mark is found by a finer one that it has. -/
theorem find?_eq_of_imp {α : Type} {fine coarse : α → Bool} {l : List α}
    (himp : ∀ a, fine a = true → coarse a = true)
    (h : ∀ a, l.find? coarse = some a → fine a = true) : l.find? fine = l.find? coarse := by
  induction l with
  | nil => rfl
  | cons a l ih =>
    by_cases hcoarse : coarse a = true
    · have hfirst : (a :: l).find? coarse = some a := List.find?_cons_of_pos hcoarse
      rw [hfirst, List.find?_cons_of_pos (h a hfirst)]
    · rw [List.find?_cons_of_neg hcoarse] at h ⊢
      rw [List.find?_cons_of_neg fun hfine => hcoarse (himp a hfine), ih h]

/-- A switch has the value that it is given last, if it is given one. -/
theorem switchValue_settle (h : AllFit settings assigned) (name : String) :
    (settle assigned settings).switchValue name =
      match lastValue? assigned (lowercase name) with
      | some (.switch on) => .ok on
      | _ => settings.switchValue name := by
  rw [switchValue_eq, switchValue_eq, find?_settle h]
  cases hlast : lastValue? assigned (lowercase name) with
  | none => rcases settings.find? name with _ | _ | _ <;> rfl
  | some value =>
    obtain ⟨entry, hentry, hvalue⟩ := Option.map_eq_some_iff.1 hlast
    have hname : lowercase entry.1 = lowercase name := by simpa using List.find?_some hentry
    have hmem : entry ∈ assigned := List.mem_reverse.1 (List.mem_of_find?_eq_some hentry)
    obtain ⟨old, hold, hkind⟩ :=
      Settings.kind_eq_ok_iff.1 (Settings.kind_congr hname (h entry hmem))
    rw [hvalue] at hkind
    rw [hold]
    cases old <;> cases value
    case switch.switch | text.text => rfl
    case switch.text | text.switch => cases hkind

theorem isRegistered_of_lastSpelling? (h : AllFit settings assigned) {name other : String}
    (hother : lastSpelling? (assigned.map (·.1)) name = some other) :
    settings.isRegistered name = true := by
  have hname : lowercase other = lowercase name := by simpa using List.find?_some hother
  obtain ⟨entry, hentry, rfl⟩ :=
    List.mem_map.1 (List.mem_reverse.1 (List.mem_of_find?_eq_some hother))
  obtain ⟨old, hold, -⟩ :=
    Settings.kind_eq_ok_iff.1 (Settings.kind_congr hname (h entry hentry))
  exact Option.isSome_iff_exists.2 ⟨old, hold⟩

/-- An assignment is found on the line if its name is spelled there as it is now. -/
theorem onLine_eq_inSettings (h : AllFit settings assigned) {name : String}
    (hspelled : ∀ other, lastSpelling? (assigned.map (·.1)) name = some other →
      sameIgnoringAsciiCase other name = true) :
    onLine settings assigned name = inSettings settings assigned name := by
  have hfind : assigned.reverse.find? (fun entry => sameIgnoringAsciiCase entry.1 name) =
      assigned.reverse.find? fun entry => lowercase entry.1 = lowercase name := by
    refine find?_eq_of_imp (fun entry hsame => ?_) fun entry hentry => hspelled entry.1 ?_
    · exact decide_eq_true (lowercase_eq_of_sameIgnoringAsciiCase hsame)
    · rw [lastSpelling?, ← List.map_reverse, List.find?_map]
      exact congrArg (Option.map _) hentry
  rw [inSettings, switchValue_settle h]
  unfold onLine Assignments.switchValue lastValue?
  rw [hfind]
  rcases assigned.reverse.find? _ with _ | ⟨_, _ | _⟩ <;> rfl

/-- Where switches are spelled alike it is all the same where they are looked up. -/
theorem collect_onLine {before list : List Assignment}
    (hspelled : SpelledAlike settings (before ++ list)) (hfit : AllFit settings assigned)
    (hnames : assigned.map (·.1) = before.map fun earlier => (earlier.meaning settings).1) :
    collect (onLine settings) settings list assigned =
      collect (inSettings settings) settings list assigned := by
  induction list generalizing before assigned with
  | nil => rfl
  | cons assignment rest ih =>
    have hsame : assignment.entry (onLine settings assigned) settings =
        assignment.entry (inSettings settings assigned) settings := by
      refine Assignment.entry_congr fun name hmeaning => ?_
      refine onLine_eq_inSettings hfit fun other hother => ?_
      have hregistered := isRegistered_of_lastSpelling? hfit hother
      rw [hnames] at hother
      exact hspelled before assignment rest name rfl hmeaning hregistered other hother
    unfold collect
    rw [hsame]
    cases hentry : assignment.entry (inSettings settings assigned) settings with
    | error error => rfl
    | ok entry =>
      have hrest : SpelledAlike settings ((before ++ [assignment]) ++ rest) := by
        rwa [List.append_assoc, List.singleton_append]
      refine ih hrest ((sound_inSettings settings).allFit_concat hfit hentry) ?_
      rw [List.map_append, List.map_append, hnames, List.map_singleton, List.map_singleton,
        Assignment.fst_of_entry hentry]

/-- Where settings are named in plain ASCII letters there are no other spellings. -/
theorem spelledAlike_of_asciiOnly
    (h : ∀ entry ∈ settings.entries, ∀ small ∈ entry.1.toList, AsciiOnly small)
    (list : List Assignment) : SpelledAlike settings list := by
  intro before assignment after name _ _ hregistered other hother
  have hname : lowercase other = lowercase name := by simpa using List.find?_some hother
  obtain ⟨value, hvalue⟩ := Option.isSome_iff_exists.1 hregistered
  obtain ⟨first, last, hentries, _⟩ := List.lookup_eq_some_iff.1 hvalue
  have hmem : (lowercase name, value) ∈ settings.entries := by
    rw [hentries]
    exact List.mem_append_right first List.mem_cons_self
  refine sameIgnoringAsciiCase_of_lowercase_eq hname ?_
  exact h (lowercase name, value) hmem

/-- The client names its settings so. -/
theorem asciiOnly_initial :
    ∀ entry ∈ Settings.initial.entries, ∀ small ∈ entry.1.toList, AsciiOnly small := by
  have hall : (Settings.initial.entries.all fun entry =>
      entry.1.toList.all fun small => AsciiOnly small) = true := by decide
  simpa only [List.all_eq_true, decide_eq_true_eq] using hall

end Spelling

section Lines

variable [Service σ] {dispatcher : Dispatcher (Session σ)} {session : Session σ}
  {assigned : List (String × SettingValue)} {list : List Assignment} {line : String}

/-- A line that makes assignments, and does nothing else. -/
def SetLine (list : List Assignment) (line : String) : Prop :=
  Token.ofLine line = .word "set" :: (list.flatMap Assignment.tokens ++ [.endOfLine])

theorem Arranged.of_mem {assignment : Assignment} (h : Arranged list) (hmem : assignment ∈ list) :
    Arranged [assignment] where
  bare _ hword := absurd hword List.not_mem_nil
  valued word value hvalued := h.valued word value (List.mem_singleton.1 hvalued ▸ hmem)

/-- A line with assignments is carried out if they are in order, and else changes nothing. -/
theorem dispatch_setLine (hoffers : dispatcher.Offers Command.builtin) (harranged : Arranged list)
    (hlist : list ≠ []) (hline : SetLine list line) (session : Session σ) :
    (∃ error, collect (onLine session.settings) session.settings list [] = .error error ∧
      (dispatcher.dispatch line session).1 = .error (.command error) ∧
      (dispatcher.dispatch line session).2.2 = session) ∨
    ∃ all, collect (onLine session.settings) session.settings list [] = .ok all ∧
      (dispatcher.dispatch line session).1 = .ok () ∧
      (dispatcher.dispatch line session).2.2 =
        { session with settings := settle all session.settings } := by
  have hmem : ("set", assign) ∈ (Command.builtin : List (String × Command (Session σ))) :=
    List.mem_cons_self
  obtain ⟨words, hwords, hcases⟩ :=
    hoffers.dispatch_simple Dispatcher.nodup_names_builtin hmem hline session
  rw [← List.append_cancel_right hwords, readLine_flatMap session harranged hlist] at hcases
  rcases hcases with hfailed | ⟨all, hread, hresult, hsession⟩
  · exact .inl hfailed
  · have hdone : (assignAll all session.settings).1 = .ok () :=
      assignAll_of_fits (allFit_collect (sound_onLine _) (List.forall_mem_nil _) hread)
    refine .inr ⟨all, hread, ?_, hsession⟩
    rw [hresult]
    change ((assignAll all session.settings).1.mapError _).mapError _ = _
    rw [hdone]
    rfl

/-- On a line of its own an assignment comes to what it is after the settings were left so. -/
theorem collect_singleton {settings : Settings} (hfit : AllFit settings assigned)
    (assignment : Assignment) :
    collect (onLine (settle assigned settings)) (settle assigned settings) [assignment] [] =
      (assignment.entry (inSettings settings assigned) settings).map fun entry => [entry] := by
  rw [collect, assignment.entry_of_kind_eq (kind_settle hfit)]
  change (assignment.entry (inSettings settings assigned) settings >>= _) = _
  cases assignment.entry (inSettings settings assigned) settings <;> rfl

/-- Lines with an assignment each are carried out up to the first that is not in order. -/
theorem runStrictly_setLines {lines : List String} (hoffers : dispatcher.Offers Command.builtin)
    (harranged : ∀ assignment ∈ list, Arranged [assignment])
    (hlines : List.Forall₂ (fun assignment line => SetLine [assignment] line) list lines)
    (hfit : AllFit session.settings assigned) :
    ∃ all, AllFit session.settings all ∧
      (Script.runStrictly lines dispatcher
          { session with settings := settle assigned session.settings }).2.2 =
        { session with settings := settle all session.settings } ∧
      ((Script.runStrictly lines dispatcher
          { session with settings := settle assigned session.settings }).1 = .ok () ∧
        collect (inSettings session.settings) session.settings list assigned = .ok all ∨
      ∃ error, (Script.runStrictly lines dispatcher
          { session with settings := settle assigned session.settings }).1 =
          .error (.command error) ∧
        collect (inSettings session.settings) session.settings list assigned = .error error) := by
  -- The settings change from line to line, so they are told as what the assignments so far leave of
  -- the first ones.
  induction hlines generalizing dispatcher assigned with
  | nil => exact ⟨assigned, hfit, rfl, .inl ⟨rfl, rfl⟩⟩
  | @cons assignment line rest lines hline hlines ih =>
    have hfirst := dispatch_setLine hoffers (harranged assignment List.mem_cons_self)
      (List.cons_ne_nil _ _) hline { session with settings := settle assigned session.settings }
    have hoffers' := hoffers.dispatch line
      { session with settings := settle assigned session.settings }
    dsimp only at hfirst
    rw [collect_singleton hfit] at hfirst
    unfold Script.runStrictly collect
    generalize dispatcher.dispatch line _ = outcome at hfirst hoffers' ⊢
    obtain ⟨result, dispatcher', session'⟩ := outcome
    cases hentry : assignment.entry (inSettings session.settings assigned) session.settings with
    | error error =>
      rw [hentry] at hfirst
      obtain ⟨_, herror, rfl, rfl⟩ | ⟨_, hnot, -⟩ := hfirst
      · cases herror
        exact ⟨assigned, hfit, rfl, .inr ⟨error, rfl, rfl⟩⟩
      · cases hnot
    | ok entry =>
      rw [hentry] at hfirst
      obtain ⟨_, hnot, -⟩ | ⟨_, hall, rfl, rfl⟩ := hfirst
      · cases hnot
      · cases hall
        have hrest := ih hoffers' (fun other hother => harranged other (.tail _ hother))
          ((sound_inSettings session.settings).allFit_concat hfit hentry)
        rw [settle_append hfit] at hrest
        exact hrest

/-- The same settings are declared, with values of the same kinds. -/
def SameDeclared (settings after : Settings) : Prop :=
  (∀ name, after.kind name = settings.kind name) ∧
    after.entries.map (·.1) = settings.entries.map (·.1)

theorem sameDeclared_settle {settings : Settings} (h : AllFit settings assigned) :
    SameDeclared settings (settle assigned settings) := ⟨kind_settle h, names_settle h⟩

/-- Assignments on one line succeed just if they do on lines of their own, and otherwise the
complaint is the same. If they succeed then the session becomes the same, as long as switches that
are turned over are spelled alike, which they are where settings are named in plain ASCII letters. If
they fail then the one line leaves everything as it was. Either way the settings stay declared. -/
theorem one_line_is_its_assignments {lines : List String}
    (hoffers : dispatcher.Offers Command.builtin) (harranged : Arranged list) (hlist : list ≠ [])
    (hline : SetLine list line)
    (hlines : List.Forall₂ (fun assignment line => SetLine [assignment] line) list lines) :
    (dispatcher.dispatch line session).1 = (Script.runStrictly lines dispatcher session).1 ∧
    ((dispatcher.dispatch line session).1 = .ok () →
      (SpelledAlike session.settings list ∨
        ∀ entry ∈ session.settings.entries, ∀ small ∈ entry.1.toList, AsciiOnly small) →
      (dispatcher.dispatch line session).2.2 = (Script.runStrictly lines dispatcher session).2.2) ∧
    (∀ error, (dispatcher.dispatch line session).1 = .error error →
      (dispatcher.dispatch line session).2.2 = session) ∧
    SameDeclared session.settings (dispatcher.dispatch line session).2.2.settings ∧
    SameDeclared session.settings (Script.runStrictly lines dispatcher session).2.2.settings := by
  have hnone : AllFit session.settings [] := List.forall_mem_nil _
  have hown : ∀ assignment ∈ list, Arranged [assignment] := fun _ => harranged.of_mem
  have htogether := dispatch_setLine hoffers harranged hlist hline session
  obtain ⟨left, hleft, hapart, houtcome⟩ := runStrictly_setLines hoffers hown hlines hnone
  -- Without assignments before it the first of the lines is carried out in the session as it is.
  change (Script.runStrictly lines dispatcher session).2.2 = _ at hapart
  change (Script.runStrictly lines dispatcher session).1 = .ok () ∧ _ ∨
    ∃ error, (Script.runStrictly lines dispatcher session).1 = _ ∧ _ at houtcome
  have hfailure := failure?_collect (sound_onLine session.settings)
    (sound_inSettings session.settings) list hnone hnone
  rcases htogether with ⟨error, hcollect, hresult, hsession⟩ | ⟨all, hcollect, hresult, hsession⟩
  · rcases houtcome with ⟨-, hcollect'⟩ | ⟨error', hresult', hcollect'⟩ <;>
      rw [hcollect, hcollect'] at hfailure <;> cases hfailure
    rw [hresult, hresult', hsession, hapart]
    exact ⟨rfl, nofun, fun _ _ => rfl, sameDeclared_settle hnone, sameDeclared_settle hleft⟩
  · rcases houtcome with ⟨hresult', hcollect'⟩ | ⟨error', -, hcollect'⟩
    · rw [hresult, hresult', hsession, hapart]
      have hall := allFit_collect (sound_onLine session.settings) hnone hcollect
      refine ⟨rfl, fun _ hspelled => ?_, nofun, sameDeclared_settle hall, sameDeclared_settle hleft⟩
      have halike : SpelledAlike session.settings ([] ++ list) :=
        hspelled.elim id fun hplain => spelledAlike_of_asciiOnly hplain list
      rw [collect_onLine halike hnone rfl, hcollect'] at hcollect
      cases hcollect
      rfl
    · rw [hcollect, hcollect'] at hfailure
      cases hfailure

/-- A line on which a switch is turned over twice, and a text is a token of its own. -/
def twiceOver : List Assignment :=
  [.bare "center!", .bare "CENTER!", .bare "nocenter", .valued "topbar=" (.quoted "a b")]

theorem arranged_twiceOver : Arranged twiceOver where
  bare word hword := by
    have hnone : ∀ word ∈ ["center!", "CENTER!", "nocenter"], splitOnce word "=" = none := by decide
    have hmem : word ∈ ["center!", "CENTER!", "nocenter"] := by simpa [twiceOver] using hword
    rintro ⟨name, hsplit⟩
    rw [hnone word hmem] at hsplit
    cases hsplit
  valued word value hvalued := by
    obtain ⟨rfl, rfl⟩ : word = "topbar=" ∧ value = .quoted "a b" := by
      simpa [twiceOver] using hvalued
    exact ⟨⟨"topbar", by decide⟩, nofun⟩

/-- In the client a switch is turned over twice, however it is spelled. -/
theorem one_line_turns_over_twice :
    let line := "set center! CENTER! nocenter topbar=\"a b\""
    let lines := ["set center!", "set CENTER!", "set nocenter", "set topbar= \"a b\""]
    let session : Session Rehearsal := { chance := .first }
    (Dispatcher.standard.dispatch line session).1 = .ok () ∧
      (Dispatcher.standard.dispatch line session).2.2 =
        (Script.runStrictly lines Dispatcher.standard session).2.2 := by
  intro line lines session
  have hdone : (Dispatcher.standard.dispatch line session).1 = .ok () :=
    failure?_eq_none_iff.1 (by decide +kernel)
  have hline : SetLine twiceOver line := by
    unfold SetLine
    decide +kernel
  have hlines : List.Forall₂ (fun assignment line => SetLine [assignment] line)
      twiceOver lines := by
    unfold SetLine twiceOver
    decide +kernel
  have hsame := @one_line_is_its_assignments _ _ _ session _ _ _
    Dispatcher.offers_standard arranged_twiceOver nofun hline hlines
  exact ⟨hdone, hsame.2.1 hdone (.inr asciiOnly_initial)⟩

/-- A switch is turned over twice on one line, but not found under its other spelling the second
time. It is left on, where lines of their own leave it off. -/
theorem other_spelling_is_overlooked :
    let list := [Assignment.bare "É!", Assignment.bare "é!"]
    let session : Session Rehearsal :=
      { settings := { entries := [("é", .switch false)] }, chance := .first }
    let together := Dispatcher.standard.dispatch "set É! é!" session
    let apart := Script.runStrictly ["set É!", "set é!"] Dispatcher.standard session
    SetLine list "set É! é!" ∧
      List.Forall₂ (fun assignment line => SetLine [assignment] line) list ["set É!", "set é!"] ∧
      together.1 = .ok () ∧ apart.1 = .ok () ∧
      together.2.2.settings.entries = [("é", .switch true)] ∧
      apart.2.2.settings.entries = [("é", .switch false)] := by
  intro list session together apart
  unfold SetLine
  exact ⟨by decide +kernel, by decide +kernel, failure?_eq_none_iff.1 (by decide +kernel),
    failure?_eq_none_iff.1 (by decide +kernel), by decide +kernel, by decide +kernel⟩

end Lines

end Command

end Jukebox
