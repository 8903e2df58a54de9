import Mathlib.Logic.Function.Iterate
import Jukebox.Proofs.Observed
import Jukebox.Wire.Network

/-
# Which response belongs to which request

What a server sends is a sequence of responses, each of which runs through the line `OK` or the line
of a refusal. A request that is answered well or refused has read one response. So as long as no answer
breaks the connection, the request of some number is answered by the response of that number; and it
is still answered by it if it breaks the connection itself.
-/

namespace Jukebox.Wire

/-- Whether a line is the last one of a response. -/
def endsResponse (line : List UInt8) : Bool :=
  match lineText line with
  | .ok text =>
    match ResponseLine.ofText text with
    | .done | .refusal _ => true
    | .pair _ _ | .senseless => false
  | .error _ => false

/-- What follows the first response of a stream. -/
def skipResponse : List UInt8 → List UInt8
  | [] => []
  | b :: bytes =>
    if endsResponse (takeLine (b :: bytes)).1 then (takeLine (b :: bytes)).2
    else skipResponse (takeLine (b :: bytes)).2
termination_by stream => stream.length
decreasing_by exact length_takeLine_lt b bytes

theorem skipResponse_of_line {stream rest : List UInt8} {text : String}
    (h : readLine stream = (.ok text, rest)) :
    skipResponse stream =
      match ResponseLine.ofText text with
      | .done | .refusal _ => rest
      | .pair _ _ | .senseless => skipResponse rest := by
  cases stream with
  | nil => cases h
  | cons b bytes =>
    rw [readLine, List.isEmpty_cons, if_neg Bool.false_ne_true] at h
    rw [skipResponse]
    generalize takeLine (b :: bytes) = taken at h ⊢
    obtain ⟨line, after⟩ := taken
    obtain ⟨htext, rfl⟩ : lineText line = .ok text ∧ after = rest := by simpa using h
    simp only [endsResponse, htext]
    rcases hmeaning : ResponseLine.ofText text with _ | _ | _ | _ <;> simp

/-- A stream that gives no line is broken. -/
theorem isBroken_of_readLine {stream rest : List UInt8} {error : PlaybackError}
    (h : readLine stream = (.error error, rest)) : error.isBroken := by
  unfold readLine at h
  split at h
  · cases h
    rfl
  · obtain ⟨htext, -⟩ := by simpa only [Prod.mk.injEq] using h
    unfold lineText at htext
    split at htext
    · cases htext
    · cases htext
      rfl

/-- Reading that does not break the connection reads one response. -/
theorem readPairs_snd {pairs : Pairs} {stream : List UInt8}
    (h : ∀ error, (readPairs pairs stream).1 = .error error → ¬ error.isBroken) :
    (readPairs pairs stream).2 = skipResponse stream := by
  fun_induction readPairs pairs stream with
  | case1 pairs stream error rest hline =>
    exact absurd (isBroken_of_readLine hline) (h error rfl)
  | case2 pairs stream text rest hline hdone =>
    rw [skipResponse_of_line hline, hdone]
  | case3 pairs stream text rest hline message hrefusal =>
    rw [skipResponse_of_line hline, hrefusal]
  | case4 pairs stream text rest hline key value hpair ih =>
    rw [skipResponse_of_line hline, hpair]
    exact ih h
  | case5 pairs stream text rest hline hsenseless =>
    exact absurd rfl (h _ rfl)

/-- What the server sent and the client has not read yet. -/
def Link.unread (link : Link) : List UInt8 := link.client.connection.unread

theorem unread_answer {request : Request} {link : Link}
    (h : ∀ error, (Service.answer request link).1 = .error error → ¬ error.isBroken) :
    (Service.answer request link).2.unread = skipResponse link.unread := by
  refine readPairs_snd fun error herror => h error ?_
  have hanswer : (Service.answer request link).1 =
      (readResponse link.client.connection.unread).1.bind (replyOf request) := rfl
  rw [hanswer, readResponse, herror]
  rfl

end Jukebox.Wire

namespace Jukebox.Observed

open Wire

/-- Requests and responses belong together: each request was put when just the responses to those
before it had been read, and so the next one will be. -/
structure Paired (o : Observed Link) : Prop where
  calls : o.StopsAtBreak → ∀ number call, o.calls[number]? = some call →
    call.before.unread = skipResponse^[number] o.opened.unread
  next : o.Intact → o.service.unread = skipResponse^[o.calls.length] o.opened.unread

theorem paired_fresh (link : Link) : (fresh link).Paired where
  calls _ number call hcall := by
    rw [fresh, List.getElem?_nil] at hcall
    cases hcall
  next _ := rfl

theorem Paired.answer {o : Observed Link} (h : o.Paired) (request : Request) :
    (Service.answer request o).2.Paired where
  calls hstops number call hcall := by
    have hintact : o.Intact := by
      intro earlier hearlier
      refine hstops earlier ?_
      rw [calls_answer, List.dropLast_concat]
      exact hearlier
    rw [calls_answer] at hcall
    rcases Nat.lt_trichotomy number o.calls.length with hlt | rfl | hgt
    · rw [List.getElem?_append_left hlt] at hcall
      exact h.calls hintact.stopsAtBreak number call hcall
    · rw [List.getElem?_concat_length] at hcall
      cases hcall
      exact h.next hintact
    · rw [List.getElem?_eq_none (by rw [List.length_append]; exact hgt)] at hcall
      cases hcall
  next hintact := by
    have hbefore : o.Intact := hintact.of_later (Service.later_answer request o)
    have hunbroken : ∀ error, (Service.answer request o.service).1 = .error error →
        ¬ error.isBroken := by
      intro error herror hbroken
      refine hintact ⟨request, o.service, some error⟩ ?_ ⟨error, rfl, hbroken⟩
      rw [calls_answer, herror]
      exact List.mem_append_right _ List.mem_cons_self
    rw [service_answer, Wire.unread_answer hunbroken, h.next hbefore, calls_answer,
      List.length_append, List.length_singleton, Function.iterate_succ_apply', opened_answer]

theorem Recorded.paired {o : Observed Link} (h : o.Recorded) : o.Paired :=
  Service.Later.keeps (fun request _ hpaired => hpaired.answer request) h (paired_fresh o.opened)

end Jukebox.Observed
