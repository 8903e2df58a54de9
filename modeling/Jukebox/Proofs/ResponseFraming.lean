import Jukebox.Proofs.StreamLines
import Jukebox.Wire.Response

/-
# Responses as they are written

A server writes a response line by line: fields, each a key and a value, and then `OK`, or the line of
a refusal. Whatever fields and refusals are sent one after another, what is read are just these, in
order, and nothing of what follows is touched. And if the stream ends before the `OK` of a response is
complete, no response is read at all: the connection is broken, even if the cut leaves whole fields.
-/

namespace Jukebox

namespace Text

/-- A mark of two characters is found where it was written. -/
theorem splitAtFirst_append {a b : Char} (hab : a ≠ b) {before : List Char}
    (hbefore : ¬ [a, b] <:+: before) (after : List Char) :
    splitAtFirst [a, b] (before ++ a :: b :: after) = some (before, after) := by
  induction before with
  | nil => simp [splitAtFirst]
  | cons c before ih =>
    rw [List.infix_cons_iff, not_or] at hbefore
    obtain ⟨hhere, hlater⟩ := hbefore
    have hnot : ¬ [a, b].isPrefixOf (c :: (before ++ a :: b :: after)) := by
      rw [List.isPrefixOf_iff_prefix]
      intro h
      obtain ⟨rfl, hnext⟩ := List.cons_prefix_cons.1 h
      cases before with
      | nil => exact hab (List.cons_prefix_cons.1 hnext).1.symm
      | cons d before =>
        obtain ⟨rfl, -⟩ := List.cons_prefix_cons.1 hnext
        exact hhere (List.prefix_append [a, b] before)
    rw [List.cons_append, splitAtFirst, if_neg hnot, ih hlater]
    rfl

theorem splitOnce_append {a b : Char} (hab : a ≠ b) {before : String}
    (hbefore : ¬ [a, b] <:+: before.toList) (after : String) :
    splitOnce (before ++ String.ofList [a, b] ++ after) (String.ofList [a, b]) =
      some (before, after) := by
  have htext : (before ++ String.ofList [a, b] ++ after).toList =
      before.toList ++ a :: b :: after.toList := by simp
  rw [splitOnce, htext, String.toList_ofList, splitAtFirst_append hab hbefore]
  simp

/-- A mark occurs in a text only where the text has the first character of the mark. -/
theorem not_infix_append {a : Char} {mark before text : List Char} (hbefore : a ∉ before)
    (htext : ¬ (a :: mark) <:+: text) : ¬ (a :: mark) <:+: before ++ text := by
  induction before with
  | nil => exact htext
  | cons c before ih =>
    rw [List.mem_cons, not_or] at hbefore
    rw [List.cons_append, List.infix_cons_iff, not_or]
    exact ⟨fun h => hbefore.1 (List.cons_prefix_cons.1 h).1, ih hbefore.2⟩

theorem isSome_afterStart?_iff {text start : String} :
    (afterStart? text start).isSome ↔ start.toList <+: text.toList := by
  unfold afterStart?
  split
  · next h => simpa using h
  · next h => simpa using h

/-- What a text begins with that goes on with a certain character, the part before that character
begins with, unless that character is in it. -/
theorem prefix_of_prefix_append_cons {start before after : List Char} {c : Char} (hc : c ∉ start)
    (h : start <+: before ++ c :: after) : start <+: before := by
  rcases List.prefix_or_prefix_of_prefix h (List.prefix_append before _) with hbegins | hlonger
  · exact hbegins
  · obtain ⟨tail, rfl⟩ := hlonger
    rw [List.prefix_append_right_inj] at h
    cases tail with
    | nil => simp
    | cons d tail =>
      obtain ⟨rfl, -⟩ := List.cons_prefix_cons.1 h
      exact absurd (List.mem_append_right _ List.mem_cons_self) hc

end Text

namespace Wire

open Text

/-- Whether a text can end a line and be read as it is: the line ends where the text does. -/
structure EndsLine (text : String) : Prop where
  newline : '\n' ∉ text.toList
  carriageReturn : text.toList.getLast? ≠ some '\r'

/-- A line with a key and a value. -/
structure Field where
  key : String
  value : String
  /-- In particular there is no colon with a blank after it in the key. -/
  key_plain : '\n' ∉ key.toList ∧ ' ' ∉ key.toList
  key_not_ok : ¬ "OK".toList <+: key.toList
  value_plain : EndsLine value

/-- The line that says why a request is refused. -/
structure Refusal where
  error : Nat
  /-- Which of several commands is refused. -/
  index : Nat
  /-- The name of the command. -/
  command : String
  message : String
  /-- In particular the brace and the blank after the name do not occur in it. -/
  command_plain : '\n' ∉ command.toList ∧ ¬ ['\x7d', ' '] <:+: command.toList
  message_plain : EndsLine message

/-- A response: its fields, and why the request is refused, if it is. -/
structure Response where
  fields : List Field
  refusal? : Option Refusal := none

/-- The line of a field. -/
def Field.line (field : Field) : String := field.key ++ ": " ++ field.value

/-- What the line of a refusal says before the name of the command. -/
def Refusal.opening (refusal : Refusal) : String :=
  "ACK [" ++ toString refusal.error ++ "@" ++ toString refusal.index ++ "] \x7b"

/-- The line of a refusal. -/
def Refusal.line (refusal : Refusal) : String :=
  refusal.opening ++ refusal.command ++ "\x7d " ++ refusal.message

/-- The bytes of lines. -/
def bytesOfLines (lines : List String) : List UInt8 :=
  lines.flatMap fun line => encodeUtf8 (line ++ "\n")

/-- The bytes of a response. -/
def Response.bytes (response : Response) : List UInt8 :=
  bytesOfLines (response.fields.map Field.line ++
    [(response.refusal?.map Refusal.line).getD "OK"])

/-- What is to be read of a response. -/
def Response.outcome (response : Response) : Except PlaybackError Pairs :=
  match response.refusal? with
  | none => .ok (response.fields.map fun field => (field.key, field.value))
  | some refusal => .error (.rejected refusal.message)

/-- Reads a number of responses. -/
def readResponses : Nat → List UInt8 → List (Except PlaybackError Pairs) × List UInt8
  | 0, stream => ([], stream)
  | count + 1, stream =>
    let (result, rest) := readResponse stream
    let (results, rest) := readResponses count rest
    (result :: results, rest)

section Lines

theorem EndsLine.append {before text : String} (h : EndsLine text) (hbefore : EndsLine before) :
    EndsLine (before ++ text) where
  newline := by
    rw [String.toList_append, List.mem_append, not_or]
    exact ⟨hbefore.newline, h.newline⟩
  carriageReturn := by
    rw [String.toList_append, List.getLast?_append]
    cases hlast : text.toList.getLast? with
    | none => exact hbefore.carriageReturn
    | some c =>
      rw [Option.some_or, ← hlast]
      exact h.carriageReturn

theorem endsLine_of_blank {text : String} (h : '\n' ∉ text.toList) : EndsLine (text ++ " ") where
  newline := by simpa using h
  carriageReturn := by simp

theorem Field.endsLine (field : Field) : EndsLine field.line := by
  have hkey : '\n' ∉ (field.key ++ ":").toList := by simpa using field.key_plain.1
  have hmark : ": " = ":" ++ " " := rfl
  rw [Field.line, hmark, ← String.append_assoc]
  exact field.value_plain.append (endsLine_of_blank hkey)

/-- Whether a line ends no response, not even if it is cut off. -/
def EndsNoResponse (line : String) : Prop :=
  ∀ text : String, text.toList <+: line.toList →
    text ≠ "OK" ∧ ¬ (afterStart? text "ACK ").isSome

theorem Field.endsNoResponse (field : Field) : EndsNoResponse field.line := by
  intro text h
  have hline : field.line.toList = field.key.toList ++ ':' :: ' ' :: field.value.toList := by
    simp [Field.line]
  rw [hline] at h
  constructor
  · rintro rfl
    exact field.key_not_ok (prefix_of_prefix_append_cons (by decide) h)
  · rw [isSome_afterStart?_iff]
    intro hstart
    have hkey := prefix_of_prefix_append_cons (by decide) (hstart.trans h)
    exact field.key_plain.2 (hkey.subset (by decide))

theorem Field.ofText_line (field : Field) :
    ResponseLine.ofText field.line = .pair field.key field.value := by
  obtain ⟨hdone, hrefusal⟩ := field.endsNoResponse _ (List.prefix_refl _)
  have hkey : ¬ [':', ' '] <:+: field.key.toList := fun h =>
    field.key_plain.2 (h.subset (by decide))
  have hsplit : splitOnce field.line ": " = some (field.key, field.value) :=
    splitOnce_append (by decide) hkey field.value
  rw [ResponseLine.ofText, if_neg hdone, if_neg hrefusal, hsplit]

theorem Refusal.not_mem_opening (refusal : Refusal) {c : Char}
    (hc : c = '\n' ∨ c = '\x7d') : c ∉ refusal.opening.toList := by
  have hdigits (n : Nat) : c ∉ (toString n).toList := by
    intro h
    have hdigit := isDigit_of_mem_toString h
    rcases hc with rfl | rfl <;> exact absurd hdigit (by decide)
  have hnumbers := And.intro (hdigits refusal.error) (hdigits refusal.index)
  rcases hc with rfl | rfl <;> simpa [Refusal.opening] using hnumbers

theorem Refusal.endsLine (refusal : Refusal) : EndsLine refusal.line := by
  have hmark : "\x7d " = "\x7d" ++ " " := rfl
  rw [Refusal.line, hmark, ← String.append_assoc]
  refine refusal.message_plain.append (endsLine_of_blank ?_)
  simpa using ⟨refusal.not_mem_opening (.inl rfl), refusal.command_plain.1⟩

theorem Refusal.ofText_line (refusal : Refusal) :
    ResponseLine.ofText refusal.line = .refusal refusal.message := by
  have hstart : "ACK ".toList <+: refusal.line.toList := by
    simp [Refusal.line, Refusal.opening]
  have hdone : refusal.line ≠ "OK" := by
    intro h
    rw [h] at hstart
    exact absurd hstart (by decide)
  have hbefore : ¬ ['\x7d', ' '] <:+: (refusal.opening ++ refusal.command).toList := by
    rw [String.toList_append]
    exact not_infix_append (refusal.not_mem_opening (.inr rfl)) refusal.command_plain.2
  have hsplit : splitOnce refusal.line "\x7d " =
      some (refusal.opening ++ refusal.command, refusal.message) :=
    splitOnce_append (by decide) hbefore refusal.message
  rw [ResponseLine.ofText, if_neg hdone, if_pos (isSome_afterStart?_iff.2 hstart), refusalText,
    hsplit]

end Lines

section Reading

variable {pairs : Pairs} {stream rest : List UInt8}

theorem readPairs_of_error {error : PlaybackError} (h : readLine stream = (.error error, rest)) :
    readPairs pairs stream = (.error error, rest) := by
  unfold readPairs
  split
  · next hother => cases h.symm.trans hother; rfl
  · next hother => cases h.symm.trans hother

theorem readPairs_of_ok {line : String} (h : readLine stream = (.ok line, rest)) :
    readPairs pairs stream =
      match ResponseLine.ofText line with
      | .done => (.ok pairs, rest)
      | .refusal message => (.error (.rejected message), rest)
      | .pair key value => readPairs (pairs ++ [(key, value)]) rest
      | .senseless => (.error (.unexpected line), rest) := by
  rw [readPairs]
  split
  · next hother => cases h.symm.trans hother
  · next hother =>
    cases h.symm.trans hother
    rfl

/-- Fields are read one after another, and reading goes on after them. -/
theorem readPairs_fields (pairs : Pairs) (fields : List Field) (rest : List UInt8) :
    readPairs pairs (bytesOfLines (fields.map Field.line) ++ rest) =
      readPairs (pairs ++ fields.map fun field => (field.key, field.value)) rest := by
  induction fields generalizing pairs with
  | nil => simp [bytesOfLines]
  | cons field fields ih =>
    have hbytes : bytesOfLines ((field :: fields).map Field.line) ++ rest =
        encodeUtf8 (field.line ++ "\n") ++ (bytesOfLines (fields.map Field.line) ++ rest) := by
      simp [bytesOfLines]
    have hline := readLine_line field.endsLine.newline field.endsLine.carriageReturn
      (bytesOfLines (fields.map Field.line) ++ rest)
    rw [hbytes, readPairs_of_ok hline, field.ofText_line]
    dsimp only
    rw [ih, List.append_assoc]
    rfl

/-- A response is read as it is written, and what follows it stays unread. -/
theorem readResponse_bytes (response : Response) (rest : List UInt8) :
    readResponse (response.bytes ++ rest) = (response.outcome, rest) := by
  obtain ⟨fields, refusal?⟩ := response
  have hbytes (last : String) :
      bytesOfLines (fields.map Field.line ++ [last]) ++ rest =
        bytesOfLines (fields.map Field.line) ++ (encodeUtf8 (last ++ "\n") ++ rest) := by
    simp [bytesOfLines]
  unfold readResponse Response.bytes
  rw [hbytes, readPairs_fields, List.nil_append]
  cases refusal? with
  | none =>
    have hline : readLine (encodeUtf8 ("OK" ++ "\n") ++ rest) = (.ok "OK", rest) :=
      readLine_line (by decide) (by decide) rest
    exact readPairs_of_ok hline
  | some refusal =>
    have hline := readLine_line refusal.endsLine.newline refusal.endsLine.carriageReturn rest
    refine (readPairs_of_ok hline).trans ?_
    rw [refusal.ofText_line]
    rfl

theorem readResponses_bytes (responses : List Response) (rest : List UInt8) :
    readResponses responses.length (responses.flatMap Response.bytes ++ rest) =
      (responses.map Response.outcome, rest) := by
  induction responses with
  | nil => rfl
  | cons response responses ih =>
    rw [List.flatMap_cons, List.append_assoc, List.length_cons, readResponses, readResponse_bytes,
      List.map_cons]
    dsimp only
    rw [ih]

/-- A line that is cut off and ends no response breaks the connection. -/
theorem readPairs_of_cut_line {line : String} (hnewline : '\n' ∉ line.toList)
    (hends : EndsNoResponse line) {cut : List UInt8} (h : cut <+: encodeUtf8 line) (pairs : Pairs) :
    ∃ error, (readPairs pairs cut).1 = .error error ∧ error.isBroken := by
  rcases readLine_of_cut hnewline h with ⟨error, hread, hbroken⟩ | ⟨text, hread, hbegins⟩
  · exact ⟨error, by rw [readPairs_of_error hread], hbroken⟩
  · obtain ⟨hdone, hrefusal⟩ := hends text hbegins
    rw [readPairs_of_ok hread, ResponseLine.ofText, if_neg hdone, if_neg hrefusal]
    cases splitOnce text ": " with
    | none => exact ⟨_, rfl, rfl⟩
    | some pair => exact ⟨closed, congrArg Prod.fst (readPairs_of_error rfl), rfl⟩

/-- The bytes of a response without refusal, up to the end of the word that completes it. -/
def bytesToOk (fields : List Field) : List UInt8 :=
  bytesOfLines (fields.map Field.line) ++ encodeUtf8 "OK"

/-- A response that is cut off before it is complete breaks the connection. -/
theorem readPairs_of_cut {fields : List Field} {cut : List UInt8} (h : cut <+: bytesToOk fields)
    (hne : cut ≠ bytesToOk fields) (pairs : Pairs) :
    ∃ error, (readPairs pairs cut).1 = .error error ∧ error.isBroken := by
  induction fields generalizing cut pairs with
  | nil =>
    have hbytes : bytesToOk [] = encodeUtf8 "O" ++ encodeUtf8 "K" := by decide +kernel
    have hends : EndsNoResponse "O" := by
      intro text hbegins
      rw [isSome_afterStart?_iff]
      refine ⟨?_, fun hstart => absurd (hstart.trans hbegins) (by decide)⟩
      rintro rfl
      exact absurd hbegins (by decide)
    rw [hbytes] at h hne
    exact readPairs_of_cut_line (by decide) hends
      ((List.prefix_concat_iff.1 h).resolve_left hne) pairs
  | cons field fields ih =>
    have hbytes : bytesToOk (field :: fields) =
        encodeUtf8 field.line ++ [newline] ++ bytesToOk fields := by
      simp [bytesToOk, bytesOfLines, encodeUtf8_line]
    rw [hbytes] at h hne
    -- either the line of the first field is complete, or the cut is in it
    by_cases hline : encodeUtf8 field.line ++ [newline] <+: cut
    · obtain ⟨later, rfl⟩ := hline
      rw [List.prefix_append_right_inj] at h
      have hread := readLine_line field.endsLine.newline field.endsLine.carriageReturn later
      rw [encodeUtf8_line] at hread
      rw [readPairs_of_ok hread, field.ofText_line]
      exact ih h (fun hall => hne (by rw [hall])) _
    · have hcut := (List.prefix_or_prefix_of_prefix h (List.prefix_append _ _)).resolve_right hline
      rcases List.prefix_concat_iff.1 hcut with hwhole | hpart
      · exact absurd (hwhole ▸ List.prefix_refl _) hline
      · exact readPairs_of_cut_line field.endsLine.newline field.endsNoResponse hpart pairs

end Reading

theorem bytesToOk_newline (fields : List Field) :
    ({ fields } : Response).bytes = bytesToOk fields ++ [newline] := by
  simp [Response.bytes, bytesToOk, bytesOfLines, encodeUtf8_line]

/-- Responses that follow one another are read one by one, each as it is written, and what comes after
them stays unread. But of a response without refusal that lacks more than its last newline nothing is
read: the connection is broken. -/
theorem responses_are_framed :
    (∀ (responses : List Response) (rest : List UInt8),
      readResponses responses.length (responses.flatMap Response.bytes ++ rest) =
        (responses.map Response.outcome, rest)) ∧
    ∀ (fields : List Field) (cut : List UInt8), cut <+: ({ fields } : Response).bytes →
      cut.length + 1 < ({ fields } : Response).bytes.length →
      ∃ error, (readResponse cut).1 = .error error ∧ error.isBroken := by
  refine ⟨readResponses_bytes, fun fields cut hcut hlength => ?_⟩
  rw [bytesToOk_newline] at hcut hlength
  rw [List.length_append, List.length_singleton, Nat.add_lt_add_iff_right] at hlength
  have hpart : cut <+: bytesToOk fields := by
    refine (List.prefix_concat_iff.1 hcut).resolve_left ?_
    rintro rfl
    rw [List.length_append] at hlength
    exact absurd hlength (Nat.not_lt.2 (Nat.le_add_right _ _))
  refine readPairs_of_cut hpart ?_ []
  rintro rfl
  exact Nat.lt_irrefl _ hlength

/-- A field with the word in its value that completes a response. -/
def okTitle : Field where
  key := "Title"
  value := "OK: OK"
  key_plain := by decide
  key_not_ok := by decide
  value_plain := ⟨by decide, by decide⟩

/-- The refusal to play a song. -/
def noSuchSong : Refusal where
  error := 50
  index := 0
  command := "playid"
  message := "No such song"
  command_plain := by decide
  message_plain := ⟨by decide, by decide⟩

/-- Two responses with that field, the second of them a refusal, are told apart; and a stream that
stops after the word breaks the connection. -/
theorem okTitle_is_framed :
    readResponses 2 ([{ fields := [okTitle] },
        { fields := [okTitle], refusal? := some noSuchSong }].flatMap Response.bytes ++ []) =
      ([.ok [("Title", "OK: OK")], .error (.rejected "No such song")], []) ∧
    encodeUtf8 "Title: OK" <+: ({ fields := [okTitle] } : Response).bytes ∧
    (encodeUtf8 "Title: OK").length + 1 < ({ fields := [okTitle] } : Response).bytes.length ∧
    ∃ error, (readResponse (encodeUtf8 "Title: OK")).1 = .error error ∧ error.isBroken := by
  obtain ⟨hread, hcut⟩ := responses_are_framed
  have hbegins : encodeUtf8 "Title: OK" <+: ({ fields := [okTitle] } : Response).bytes := by
    decide +kernel
  have hlength : (encodeUtf8 "Title: OK").length + 1 <
      ({ fields := [okTitle] } : Response).bytes.length := by decide +kernel
  exact ⟨hread [{ fields := [okTitle] }, { fields := [okTitle], refusal? := some noSuchSong }] [],
    hbegins, hlength, hcut _ _ hbegins hlength⟩

end Wire

end Jukebox
