import Jukebox.Proofs.Connection
import Jukebox.Proofs.Response

/-
# Connections that broke

An answer that breaks the connection may leave part of itself unread, and what is asked next on that
connection takes the rest for its own answer. So a broken connection should be dropped before anything
else is asked. The controller does so when it loads something, but not when a command line finds the
connection broken: such a connection stays open, and the next request goes out on it. Connections are
sound just as long as this does not happen, and as long as they are sound every request gets the
response that belongs to it.
-/

namespace Jukebox.Controller

open Wire

variable {ω σ α : Type}

/-- The open connection, if there is one, did not break. -/
def Intact (c : Watched ω σ) : Prop := ∀ o ∈ c.session.player, o.Intact

/-- Nothing was asked on a connection after it broke, and what broke is not open any more. -/
structure Sound (c : Watched ω σ) : Prop where
  closed : ∀ o ∈ c.network.closed, o.StopsAtBreak
  intact : c.Intact

theorem Sound.stopsAtBreak {c : Watched ω σ} (h : c.Sound) :
    ∀ o ∈ c.connections, o.StopsAtBreak := by
  intro o ho
  rcases List.mem_append.1 ho with hclosed | hopen
  · exact h.closed o hclosed
  · exact (h.intact o (Option.mem_toList.1 hopen)).stopsAtBreak

theorem Sound.of_alike {c c' : Watched ω σ} (h : c.Sound) (halike : c.Alike c') : c'.Sound := by
  constructor
  · rw [halike.network]
    exact h.closed
  · unfold Intact
    rw [halike.player]
    exact h.intact

section Parts

variable [Network ω σ]

/-- To close a connection is safe if nothing was asked after it broke. -/
theorem sound_disconnect {c : Watched ω σ} (h : ∀ o ∈ c.connections, o.StopsAtBreak) :
    c.disconnect.Sound := by
  obtain ⟨hsame, hnone⟩ := c.connections_disconnect
  constructor
  · intro o ho
    refine h o ?_
    rw [← hsame]
    exact List.mem_append_left _ ho
  · intro o ho
    rw [hnone] at ho
    cases ho

variable [Service σ]

/-- What a controller does of its own accord keeps connections sound. -/
theorem kept_sound : Kept (Sound : Watched ω σ → Prop) where
  alike h halike := h.of_alike halike
  disconnect c h := sound_disconnect h.stopsAtBreak
  converse c α exchange hstraight _ h := by
    cases hplayer : c.session.player with
    | none => exact h.of_alike (converse_of_none hplayer exchange)
    | some o =>
      obtain ⟨hstops, hunbroken⟩ := hstraight o (h.intact o hplayer)
      rcases converse_of_some hplayer exchange with ⟨hsame, hopen, hwell⟩ | ⟨hmore, hnone⟩
      · constructor
        · rw [hsame]
          exact h.closed
        · intro o' ho'
          rw [hopen] at ho'
          cases ho'
          rcases hunbroken with hintact | ⟨error, herror, hbroken⟩
          · exact hintact
          · exact absurd hbroken (hwell error herror)
      · constructor
        · intro o' ho'
          rw [hmore] at ho'
          rcases List.mem_append.1 ho' with hold | hnew
          · exact h.closed o' hold
          · rw [List.mem_singleton.1 hnew]
            exact hstops
        · intro o' ho'
          rw [hnone] at ho'
          cases ho'
  network c network hclosed h := by
    constructor
    · intro o ho
      exact h.closed o (hclosed ▸ ho)
    · exact h.intact
  attach c service h := by
    constructor
    · exact (sound_disconnect h.stopsAtBreak).closed
    · intro o ho
      cases ho
      exact Observed.intact_fresh service

/-- To ask for the status on a connection that broke makes it unsound. -/
theorem not_sound_refreshStatus {c : Watched ω σ} {o : Observed σ}
    (hplayer : c.session.player = some o) (hbroken : ¬ o.Intact) : ¬ c.refreshStatus.Sound := by
  intro hsound
  have halike := c.alike_refreshStatus
  have hlater := asks_nowPlaying o
  have hlonger := longer_nowPlaying o
  rcases converse_of_some hplayer nowPlaying with ⟨-, hopen, -⟩ | ⟨hmore, -⟩
  · have hintact := hsound.intact
    unfold Intact at hintact
    rw [halike.player, hopen] at hintact
    exact hbroken ((hintact _ rfl).of_later hlater)
  · have hclosed := hsound.closed
    rw [halike.network, hmore] at hclosed
    exact Observed.not_stopsAtBreak_of_later hlater hlonger hbroken
      (hclosed _ (List.mem_append_right _ List.mem_cons_self))

/-- Sound connections stay sound in an event just if no command line in it breaks the open one. -/
theorem sound_step_iff {c : Watched ω σ} (hsound : c.Sound)
    (hoffers : c.dispatcher.Offers Command.builtin) (event : Event) :
    (c.step event).Sound ↔ (c.runCommands event).Intact := by
  have hled := led_runCommands hoffers event
  rw [step_eq]
  constructor
  · intro hafter
    cases event with
    | line | key => exact hafter.intact
    | news | connect | shutdown => exact hsound.intact
    | tick now clock =>
      intro o ho
      by_contra hbroken
      have hplayer : (c.runCommands (.tick now clock)).session.player = some o := ho
      simp only [attend, hplayer, Option.isNone_some, Bool.false_eq_true, if_false] at hafter
      split at hafter
      · refine not_sound_refreshStatus ?_ hbroken hafter
        exact hplayer
      · exact hbroken (hafter.intact o hplayer)
  · intro hintact
    refine kept_sound.attend ⟨?_, hintact⟩ event
    rw [hled.network]
    exact hsound.closed

/-- Connections are sound all through a run just if no command line in it breaks one. -/
theorem sound_run_iff {c : Watched ω σ} (hsound : c.Sound)
    (hoffers : c.dispatcher.Offers Command.builtin) (events : List Event) :
    (∀ done, done <+: events → (c.run done).Sound) ↔
      ∀ done event, done ++ [event] <+: events → ((c.run done).runCommands event).Intact := by
  constructor
  · intro h done event hpart
    have hbefore := h done ((List.prefix_append done [event]).trans hpart)
    have hafter := h (done ++ [event]) hpart
    rw [run_concat] at hafter
    exact (sound_step_iff hbefore (offers_run hoffers done) event).1 hafter
  · intro h done
    induction done using List.reverseRecOn with
    | nil => exact fun _ => hsound
    | append_singleton done event ih =>
      intro hpart
      have hbefore := ih ((List.prefix_append done [event]).trans hpart)
      rw [run_concat]
      exact (sound_step_iff hbefore (offers_run hoffers done) event).2 (h done event hpart)

/-- A connection that broke and stays open gets the next request all the same. -/
theorem exists_not_stopsAtBreak_of_not_intact {c : Watched ω σ}
    (hoffers : c.dispatcher.Offers Command.builtin) (hbroken : ¬ c.Intact) :
    ∃ o ∈ (c.step (.line "stop")).connections, ¬ o.StopsAtBreak := by
  obtain ⟨o, hplayer, ho⟩ : ∃ o, c.session.player = some o ∧ ¬ o.Intact := by
    by_contra hnone
    exact hbroken fun o ho => by_contra fun hnot => hnone ⟨o, ho, hnot⟩
  have hline : Token.ofLine "stop" = .word "stop" :: [.endOfLine] := by decide +kernel
  have hoffered : ("stop", Command.simple .nothing fun () =>
      Session.request "stop" (Service.ask .stop)) ∈ Command.builtin (σ := Observed σ) := by
    change ("stop", Command.stop) ∈ Command.builtin
    simp [Command.builtin]
  have hafter : (c.step (.line "stop")).session.player = some (Service.answer .stop o).2 := by
    rw [step, player_runLine]
    obtain ⟨words, hbare, ⟨_, hread, -⟩ | ⟨⟨⟩, -, -, hdispatch⟩⟩ :=
      hoffers.dispatch_simple Dispatcher.nodup_names_builtin hoffered hline c.session
    · obtain rfl : [] = words := List.append_cancel_right hbare
      cases hread
    · rw [hdispatch]
      change (c.session.player.call (Service.ask .stop)).2 = some (Service.answer .stop o).2
      rw [hplayer]
      rfl
  refine ⟨_, List.mem_append_right _ (Option.mem_toList.2 hafter), ?_⟩
  refine Observed.not_stopsAtBreak_of_later (Service.later_answer .stop o) ?_ ho
  rw [Observed.calls_answer, List.length_append]
  exact Nat.lt_succ_self _

/-- A controller before its first event. -/
structure Starts (c : Watched ω σ) : Prop where
  player : c.session.player = none
  closed : c.network.closed = []
  offers : c.dispatcher.Offers Command.builtin

omit [Network ω σ] in
theorem Starts.sound {c : Watched ω σ} (h : c.Starts) : c.Sound := by
  constructor
  · rw [h.closed]
    exact nofun
  · unfold Intact
    rw [h.player]
    exact nofun

omit [Network ω σ] in
theorem Starts.recorded {c : Watched ω σ} (h : c.Starts) : ∀ o ∈ c.connections, o.Recorded := by
  unfold connections
  rw [h.closed, h.player]
  exact nofun

end Parts

/-- From the start on connections are sound all through a run just if no command line of the run
breaks the open one; a command line that does has the next request put on the broken connection. While
connections are sound, each request on each of them reads the response that belongs to it. -/
theorem sound_iff_no_line_breaks {ω : Type} [Network ω Link] (c : Watched ω Link) (hstarts : c.Starts)
    (events : List Event) :
    ((∀ done, done <+: events → (c.run done).Sound) ↔
      ∀ done event, done ++ [event] <+: events → ((c.run done).runCommands event).Intact) ∧
    (¬ (c.run events).Intact →
      ∃ o ∈ ((c.run events).step (.line "stop")).connections, ¬ o.StopsAtBreak) ∧
    ((c.run events).Sound →
      ∀ o ∈ (c.run events).connections, ∀ (number : Nat) (call : Call Link),
        o.calls[number]? = some call →
          call.before.unread = skipResponse^[number] o.opened.unread) := by
  refine ⟨sound_run_iff hstarts.sound hstarts.offers events,
    exists_not_stopsAtBreak_of_not_intact (offers_run hstarts.offers events), ?_⟩
  intro hsound o ho number call hcall
  have hrecorded := recorded_run hstarts.offers hstarts.recorded events o ho
  exact hrecorded.paired.calls (hsound.stopsAtBreak o ho) number call hcall

/-- The bytes of a text. -/
def bytes (text : String) : List UInt8 := text.toUTF8.data.toList

/-- A client that has not connected yet, of a server that will say this. -/
def beforeServer (stream : String) : Watched ScriptedNetwork Link where
  session := { chance := .first }
  dispatcher := .standard
  resolver := { timeout := Resolver.defaultTimeout }
  network := { network := { servers := some [bytes stream] } }
  server := { host := "localhost", port := 6600 }

theorem starts_beforeServer (stream : String) : (beforeServer stream).Starts := by
  have hstandard : (beforeServer stream).dispatcher = .standard := by
    unfold beforeServer
    rfl
  exact ⟨rfl, rfl, hstandard ▸ Dispatcher.offers_standard⟩

/-- A server goes away before it sends the library: the connection is dropped at once, and each
request on it read its own response. -/
theorem sound_of_lost_connection :
    (beforeServer "OK MPD 0.23.5\nOK\nOK\nOK\n").Starts ∧
    (∀ done, done <+: [Event.connect 0] →
      ((beforeServer "OK MPD 0.23.5\nOK\nOK\nOK\n").run done).Sound) ∧
    ∀ o ∈ ((beforeServer "OK MPD 0.23.5\nOK\nOK\nOK\n").run [.connect 0]).connections,
      ∀ (number : Nat) (call : Call Link), o.calls[number]? = some call →
        call.before.unread = skipResponse^[number] o.opened.unread := by
  have hstarts := starts_beforeServer "OK MPD 0.23.5\nOK\nOK\nOK\n"
  obtain ⟨hiff, -, hpaired⟩ := sound_iff_no_line_breaks _ hstarts [.connect 0]
  have hsound := hiff.2 (by
    intro done event hpart
    obtain ⟨rfl, rfl⟩ : done = [] ∧ event = .connect 0 := by
      simpa [List.prefix_cons_iff, List.append_eq_cons_iff] using hpart
    exact hstarts.sound.intact)
  exact ⟨hstarts, hsound, hpaired (hsound _ (List.prefix_refl _))⟩

/-- The answer to `stop` is garbled, the connection stays open, and what is left of that answer is
taken for the one to `next`, which the server refuses. -/
theorem garbled_answer_answers_next :
    ∃ o ∈ ((beforeServer ("OK MPD 0.23.5\nOK\nOK\nOK\nOK\ngarbage\nOK\n" ++
        "ACK [50@0] \x7bnext\x7d Not playing\n")).run
          [.connect 0, .line "stop", .line "next"]).connections,
      ¬ o.StopsAtBreak ∧
      ∃ call ∈ o.calls[5]?, call.request = .next ∧ call.failure = none ∧
        call.before.unread = bytes "OK\nACK [50@0] \x7bnext\x7d Not playing\n" ∧
        skipResponse^[5] o.opened.unread = bytes "ACK [50@0] \x7bnext\x7d Not playing\n" := by
  decide +kernel

end Jukebox.Controller
