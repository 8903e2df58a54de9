import Jukebox.Proofs.ResponseFraming
import Jukebox.Wire.Client
import Mathlib.Data.List.TakeWhile

/-
# Requests as they are written

A client writes one line for each request, and one for its password. All but one part of such a line
is in its own hands: the place of a song or the password is any text. Its quoting cannot be left
early: with the quoting undone the text comes out as it was, up to the quote that the client wrote
last. But the quoting does not cover newlines. One in the text ends the line there, and what comes
after it stands where the next request is read.
-/

namespace Jukebox

/-- The text of a request that is not the client's own. -/
def Request.argument? : Request → Option String
  | .add uri | .insert uri _ => some uri
  | _ => none

/-- What a line says after that text. -/
def Request.afterArgument : Request → String
  | .insert _ position => " " ++ toString position
  | _ => ""

namespace Text

theorem mem_escape_iff {text : List Char} {c : Char} (hc : c ≠ '\\') :
    c ∈ escape text ↔ c ∈ text := by
  induction text with
  | nil => rfl
  | cons first text ih =>
    rw [escape]
    split
    · rw [List.mem_cons, List.mem_cons, List.mem_cons, ih]
      exact or_iff_right hc
    · rw [List.mem_cons, List.mem_cons, ih]

theorem mem_enquote_iff {text : String} {c : Char} (hbackslash : c ≠ '\\') (hquote : c ≠ '"') :
    c ∈ (enquote text).toList ↔ c ∈ text.toList := by
  simp [enquote, mem_escape_iff hbackslash, hquote]

/-- What a text has between double quotes, with the quoting undone, and what comes after them. -/
def quoted? (text : String) : Option (String × String) :=
  match text.toList.dropWhile (· ≠ '"') with
  | [] => none
  | _ :: rest => (unescape? rest).map fun (inside, after) =>
      (String.ofList inside, String.ofList after)

theorem quoted?_enquote {before : String} (hbefore : '"' ∉ before.toList) (text after : String) :
    quoted? (before ++ enquote text ++ after) = some (text, after) := by
  -- the first quote is the one that the client opens the argument with
  have hopened : (before ++ enquote text ++ after).toList.dropWhile (· ≠ '"') =
      '"' :: (escape text.toList ++ '"' :: after.toList) := by
    rw [String.toList_append, String.toList_append, List.append_assoc,
      List.dropWhile_append_of_pos fun c hc => decide_eq_true (ne_of_mem_of_not_mem hc hbefore)]
    simp [enquote]
  unfold quoted?
  rw [hopened]
  simp [unescape?_escape]

theorem quoted?_eq_none {text : String} (h : '"' ∉ text.toList) : quoted? text = none := by
  have hnone : text.toList.dropWhile (· ≠ '"') = [] :=
    List.dropWhile_eq_nil_iff.2 fun c hc => decide_eq_true (ne_of_mem_of_not_mem hc h)
  rw [quoted?, hnone]

/-- Whether a text neither ends a line nor opens a quoted text. -/
structure Plain (text : String) : Prop where
  newline : '\n' ∉ text.toList
  quote : '"' ∉ text.toList

theorem Plain.append {first second : String} (hfirst : Plain first) (hsecond : Plain second) :
    Plain (first ++ second) where
  newline := by simpa using And.intro hfirst.newline hsecond.newline
  quote := by simpa using And.intro hfirst.quote hsecond.quote

theorem plain_empty : Plain "" where
  newline := by decide
  quote := by decide

theorem plain_toString (n : Nat) : Plain (toString n) where
  newline h := absurd (isDigit_of_mem_toString h) (by decide)
  quote h := absurd (isDigit_of_mem_toString h) (by decide)

end Text

namespace Wire

open Text

theorem plain_signed (n : Int) : Plain (signed n) := by
  unfold signed
  cases n with
  | ofNat n =>
    have hnot : ¬ Int.ofNat n < 0 := Int.not_lt.2 (Int.natCast_nonneg n)
    rw [if_neg hnot]
    exact .append ⟨by decide, by decide⟩ (plain_toString n)
  | negSucc n =>
    have hminus : Plain "-" := ⟨by decide, by decide⟩
    rw [if_pos (Int.negSucc_lt_zero n)]
    exact hminus.append (plain_toString (n + 1))

/-- Whether what is written is a single line. -/
def IsOneLine (written : String) : Prop :=
  ∃ line, written = line ++ "\n" ∧ '\n' ∉ line.toList

theorem isOneLine_iff {line : String} : IsOneLine (line ++ "\n") ↔ '\n' ∉ line.toList := by
  constructor
  · rintro ⟨other, hother, hline⟩
    rwa [(String.append_left_inj "\n").1 hother]
  · intro hline
    exact ⟨line, rfl, hline⟩

/-- How a text is written as an argument: as a part of one line just if it has no newline, and in
any case so that with the quoting undone it is there, and after it what the client writes after. -/
structure Carries (written : String) (argument? : Option String) (after : String) : Prop where
  isOneLine : IsOneLine written ↔ ∀ argument ∈ argument?, '\n' ∉ argument.toList
  quoted : quoted? written = argument?.map fun argument => (argument, after ++ "\n")

theorem Carries.ofPlain {line : String} (h : Plain line) : Carries (line ++ "\n") none "" where
  isOneLine := by simpa [isOneLine_iff] using h.newline
  quoted := quoted?_eq_none (by simpa using h.quote)

theorem Carries.ofEnquote {before after : String} (hbefore : Plain before) (hafter : Plain after)
    (argument : String) :
    Carries (before ++ enquote argument ++ after ++ "\n") (some argument) after where
  isOneLine := by
    simp [isOneLine_iff, hbefore.newline, hafter.newline, mem_enquote_iff]
  quoted := by
    rw [String.append_assoc]
    exact quoted?_enquote hbefore.quote argument _

/-- An argument that nothing follows. -/
theorem Carries.ofEnquote_last {before : String} (hbefore : Plain before) (argument : String) :
    Carries (before ++ enquote argument ++ "\n") (some argument) "" := by
  have hcarries := Carries.ofEnquote hbefore plain_empty argument
  rwa [String.append_empty] at hcarries

theorem carries_requestLine (request : Request) :
    Carries (requestLine request ++ "\n") request.argument? request.afterArgument := by
  cases request with
  | add uri => exact .ofEnquote_last ⟨by decide, by decide⟩ uri
  | insert uri position =>
    have hbefore : Plain "addid " := ⟨by decide, by decide⟩
    have hafter : Plain (" " ++ toString position) :=
      .append ⟨by decide, by decide⟩ (plain_toString position)
    have hcarries := Carries.ofEnquote hbefore hafter uri
    rwa [← String.append_assoc] at hcarries
  | play position? =>
    cases position? with
    | none => exact .ofPlain ⟨by decide, by decide⟩
    | some position => exact .ofPlain (.append ⟨by decide, by decide⟩ (plain_toString position))
  | playId id => exact .ofPlain (.append ⟨by decide, by decide⟩ (plain_toString id))
  | delete id => exact .ofPlain (.append ⟨by decide, by decide⟩ (plain_toString id))
  | setVolume volume => exact .ofPlain (.append ⟨by decide, by decide⟩ (plain_toString _))
  | seek target =>
    cases target with
    | absolute seconds => exact .ofPlain (.append ⟨by decide, by decide⟩ (plain_toString seconds))
    | relative seconds => exact .ofPlain (.append ⟨by decide, by decide⟩ (plain_signed seconds))
  | pause paused => cases paused <;> exact .ofPlain ⟨by decide, by decide⟩
  | _ => exact .ofPlain ⟨by decide, by decide⟩

theorem carries_passwordLine (password : String) :
    Carries (passwordLine password ++ "\n") (some password) "" :=
  .ofEnquote_last ⟨by decide, by decide⟩ password

theorem sent_send (connection : Connection) (line : String) :
    (connection.send line).sent = connection.sent ++ (line ++ "\n") := String.append_assoc

/-- A server that greets is given the password. If it refuses that, the client says good-bye. -/
theorem start_of_greeting {connection : Connection} {version : String} {rest : List UInt8}
    (h : readGreeting connection.unread = (.ok version, rest)) (password : String) :
    Client.start (some password) connection =
      let after := { connection.send (passwordLine password) with unread := (readResponse rest).2 }
      match (readResponse rest).1 with
      | .ok _ => .ok { connection := after, version }
      | .error error => .error (error, after.send "close") := by
  unfold Client.start
  rw [h]
  unfold Client.converse
  dsimp only
  cases (readResponse rest).1 with
  | ok pairs => rfl
  | error error => rfl

/-- What is written on a connection, for a request of a client or for its password, carries the text
that it is about. -/
theorem arguments_are_carried (connection : Connection) (version : String) :
    (∀ request : Request, ∃ written,
      (Service.answer request (Client.mk connection version)).2.connection.sent =
        connection.sent ++ written ∧
      Carries written request.argument? request.afterArgument) ∧
    ∀ password : String, (readGreeting connection.unread).1 = .ok version → ∃ written,
      Carries written (some password) "" ∧
      (∀ client, Client.start (some password) connection = .ok client →
        client.connection.sent = connection.sent ++ written) ∧
      ∀ error closed, Client.start (some password) connection = .error (error, closed) →
        closed.sent = connection.sent ++ written ++ "close\n" := by
  constructor
  · intro request
    exact ⟨requestLine request ++ "\n", sent_send _ _, carries_requestLine request⟩
  · intro password hgreeting
    have hstart := start_of_greeting (Prod.ext hgreeting rfl) password
    refine ⟨passwordLine password ++ "\n", carries_passwordLine password, ?_, ?_⟩
    · intro client hclient
      rw [hstart] at hclient
      dsimp only at hclient
      split at hclient
      · cases hclient
        exact sent_send connection _
      · cases hclient
    · intro error closed hclosed
      rw [hstart] at hclosed
      dsimp only at hclosed
      split at hclosed
      · cases hclosed
      · cases hclosed
        exact (sent_send _ _).trans (congrArg (· ++ "close\n") (sent_send connection _))

/-- The connection to a server that has greeted and says nothing else. -/
def greeted : Connection where
  unread := encodeUtf8 "OK MPD 0.23.5\n"

/-- A place that looks like an argument and a position is one argument all the same, and so is a
password with a blank in it. -/
theorem quotes_are_carried :
    (∃ written, (Service.answer (.insert "a\" 7" 3)
        (Client.mk greeted "0.23.5")).2.connection.sent = "" ++ written ∧
      IsOneLine written ∧ quoted? written = some ("a\" 7", " 3\n")) ∧
    (readGreeting greeted.unread).1 = .ok "0.23.5" ∧
    ∃ written, (∀ error closed, Client.start (some "open sesame") greeted =
        .error (error, closed) → closed.sent = "" ++ written ++ "close\n") ∧
      IsOneLine written ∧ quoted? written = some ("open sesame", "\n") := by
  obtain ⟨hanswer, hstart⟩ := arguments_are_carried greeted "0.23.5"
  have hgreeting : (readGreeting greeted.unread).1 = .ok "0.23.5" := by decide +kernel
  obtain ⟨request, hrequest, hplace⟩ := hanswer (.insert "a\" 7" 3)
  obtain ⟨line, hpassword, -, hclosed⟩ := hstart "open sesame" hgreeting
  refine ⟨⟨request, hrequest, hplace.isOneLine.2 ?_, hplace.quoted⟩, hgreeting,
    line, hclosed, hpassword.isOneLine.2 ?_, hpassword.quoted⟩
  · simp [Request.argument?]
  · simp

/-- A password with newlines in it is three lines to the server, and the second of them is a request
of its own. -/
theorem newlines_are_not_carried :
    ∃ client, Client.start (some "x\nclear\ny") { unread := encodeUtf8 "OK MPD 0.23.5\nOK\n" } =
        .ok client ∧
      ¬ IsOneLine client.connection.sent ∧
      client.close.sentLines = ["password \"x", "clear", "y\"", "close"] := by
  let connection : Connection := { unread := encodeUtf8 "OK MPD 0.23.5\nOK\n" }
  have hgreeting : readGreeting connection.unread = (.ok "0.23.5", encodeUtf8 "OK\n") := by
    decide +kernel
  have hresponse : readResponse (encodeUtf8 "OK\n") = (.ok [], []) :=
    readResponse_bytes { fields := [] } []
  have hstart := start_of_greeting hgreeting "x\nclear\ny"
  rw [hresponse] at hstart
  exact ⟨_, hstart, mt isOneLine_iff.1 (by decide), by decide +kernel⟩

end Wire

end Jukebox
