import Jukebox.Proofs.ResponseFraming
import Jukebox.Wire.Watcher

/-
# Waiting for news

Whoever waits for news reads a stream line by line up to the first line that is a refusal or no text, or
up to the end of the stream. Each line before that tells one piece of news or none, and is passed on in
order; for each `OK` among them the request to be told is sent once more. What comes last is the reason
for which it ended. All this begins only when the server has greeted, and has taken the password if it is
given one; if it does not get so far, then that it ended is all there is to tell, and the request was
never sent.
-/

namespace Jukebox

namespace Text

end Text

namespace Wire

open Text

/-! ### What the lines of a stream mean -/

/-- The lines of a stream, each with the newline that ends it; the last one may lack it. -/
inductive Lines : List UInt8 → List (List UInt8) → Prop
  | none : Lines [] []
  | last {text : List UInt8} (hne : text ≠ []) (htext : newline ∉ text) : Lines text [text]
  | line {text rest : List UInt8} {lines : List (List UInt8)} (htext : newline ∉ text)
      (hrest : Lines rest lines) : Lines (text ++ newline :: rest) ((text ++ [newline]) :: lines)

/-- The news that a line tells, if it tells any. -/
def newsIn? (line : String) : Option News :=
  (afterStart? line "changed: ").bind News.ofSubsystem?

/-- Whether a line is a refusal. -/
def Refuses (line : String) : Prop := "ACK ".toList <+: line.toList

instance (line : String) : Decidable (Refuses line) :=
  inferInstanceAs (Decidable ("ACK ".toList <+: line.toList))

/-- Whether a line greets. -/
def Greets (line : String) : Prop := "OK MPD ".toList <+: line.toList

instance (line : String) : Decidable (Greets line) :=
  inferInstanceAs (Decidable ("OK MPD ".toList <+: line.toList))

/-- Whether after what was read of a line another is waited for. -/
def goesOn : Except String String → Bool
  | .ok line => !decide (Refuses line)
  | .error _ => false

/-- The lines before the one that ends the waiting. -/
def heard (read : List (Except String String)) : List String :=
  (read.takeWhile goesOn).filterMap Except.toOption

/-- Why the waiting ends: what a refusal says, or why a line cannot be read, or that there is none. -/
def ending (read : List (Except String String)) : String :=
  match read.dropWhile goesOn with
  | .ok refusal :: _ => refusalText refusal
  | .error fault :: _ => fault
  | [] => "connection closed"

/-- A server lets a client wait for news, given what is read of its lines and of those after. It greets,
and it takes the password if it is given one. -/
inductive Admits : Option String → List (Except String String) → List (Except String String) → Prop
  | atOnce {greeting : String} {rest : List (Except String String)} (hgreets : Greets greeting) :
      Admits none (.ok greeting :: rest) rest
  | byPassword {greeting password : String} {rest : List (Except String String)}
      (hgreets : Greets greeting) : Admits (some password) (.ok greeting :: .ok "OK" :: rest) rest

/-- Lines as they are sent. -/
def written (lines : List String) : String := String.join (lines.map (· ++ "\n"))

theorem Lines.eq_nil {stream : List UInt8} (h : Lines stream []) : stream = [] := by
  cases h
  rfl

section Meaning

variable {line : String} (read : List (Except String String))

theorem heard_of_not_refuses (h : ¬ Refuses line) :
    heard (.ok line :: read) = line :: heard read := by
  simp [heard, goesOn, h, Except.toOption]

theorem ending_of_not_refuses (h : ¬ Refuses line) :
    ending (.ok line :: read) = ending read := by
  simp [ending, goesOn, h]

end Meaning

theorem written_append (first second : List String) :
    written (first ++ second) = written first ++ written second := by
  simp [written]

/-- What is sent when a line has been read. -/
def answerTo (line : String) : List String := if line = "OK" then [idleLine] else []

/-- The waiting told what the lines have to tell, asked once more for each `OK` among them, and ended
for the reason that they give. -/
structure Told (watch : Watch) (sent : String) (read : List (Except String String)) : Prop where
  news : watch.news = (heard read).filterMap newsIn?
  reason : watch.reason = some (ending read)
  sent : watch.connection.sent =
    sent ++ written (List.replicate ((heard read).count "OK") idleLine)

/-- What comes of waiting when a line was read, and then what comes after it. -/
theorem Told.cons {watch later : Watch} {sent line : String} {read : List (Except String String)}
    (hline : ¬ Refuses line) (hlater : Told later (sent ++ written (answerTo line)) read)
    (hnews : watch.news = (newsIn? line).toList ++ later.news)
    (hreason : watch.reason = later.reason)
    (hsent : watch.connection.sent = later.connection.sent) :
    Told watch sent (.ok line :: read) := by
  have hasked : answerTo line ++ List.replicate ((heard read).count "OK") idleLine =
      List.replicate ((line :: heard read).count "OK") idleLine := by
    unfold answerTo
    split
    · next hok => rw [hok, List.count_cons_self, List.replicate_succ, List.singleton_append]
    · next hok => rw [List.count_cons_of_ne hok, List.nil_append]
  constructor
  · rw [hnews, hlater.news, heard_of_not_refuses read hline]
    cases hfound : newsIn? line <;> simp [hfound]
  · rw [hreason, hlater.reason, ending_of_not_refuses read hline]
  · rw [hsent, hlater.sent, heard_of_not_refuses read hline, String.append_assoc, ← written_append,
      hasked]

section Beginning

variable {connection : Connection} {line rest : List UInt8} {greeting : String}
  (htake : takeLine connection.unread = (line, rest))

include htake

end Beginning

theorem Admits.unique {password : Option String} {read first second : List (Except String String)}
    (hfirst : Admits password read first) (hsecond : Admits password read second) :
    first = second := by
  cases hfirst <;> cases hsecond <;> rfl

end Wire

end Jukebox
