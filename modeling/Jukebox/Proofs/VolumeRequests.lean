import Jukebox.Playback.Rehearsal
import Jukebox.Proofs.Act
import Jukebox.Proofs.FreshCommands

/-
# The volume that is asked for

A line for `volume` asks the service what the volume is, and then for a new one. Which one that should be
is told here over all integers and from the lines that came before: a number is where the volume should
go, a number with a sign is how far, and `mute` stands for silence or, in silence, for the volume before
the last muting that succeeded and was not undone. Whatever lines came before and whatever failed, this
is what a line asks for, but for one exception. An amount may be so large that the sum does not fit a
64-bit word. Then the loudest is wanted, but nothing is asked for, and the program ends.
-/

namespace Jukebox

/-- A command that expects one word gets it, and nothing else. -/
theorem Reader.readLine_oneWord_eq_ok_iff {ω α : Type} {expected : String}
    {parse : Token → Except CommandError α} {world : ω} {words : List Token} {value : α} :
    (oneWord expected parse).readLine world words = .ok value ↔
      ∃ text, words = [.word text] ∧ parse (.word text) = .ok value := by
  cases words with
  | nil => exact ⟨nofun, nofun⟩
  | cons first rest =>
    cases first with
    | quoted _ | stray _ | endOfLine => exact ⟨nofun, fun ⟨_, hwords, _⟩ => nomatch hwords⟩
    | word text =>
      have hword : (∃ other, Token.word text :: rest = [.word other] ∧
          parse (.word other) = .ok value) ↔ rest = [] ∧ parse (.word text) = .ok value := by
        simp [and_assoc]
      rw [hword, readLine, List.foldlM_cons]
      simp only [oneWord, optionalWord, andThen]
      cases parse (.word text) with
      | error error => exact ⟨nofun, nofun⟩
      | ok read =>
        cases rest with
        | nil => exact ⟨fun h => ⟨rfl, h⟩, fun h => h.2⟩
        | cons second rest => exact ⟨nofun, nofun⟩

namespace Session

variable {σ : Type}

/-- What the service was asked so far. -/
def requests (session : Session (Observed σ)) : List Request :=
  (session.player.map fun observed => observed.calls.map (·.request)).getD []

theorem requests_of_player_eq {session : Session (Observed σ)} {observed : Observed σ}
    (hplayer : session.player = some observed) :
    session.requests = observed.calls.map (·.request) := by
  rw [requests, hplayer, Option.map_some, Option.getD_some]

variable [Service σ]

/-- The volume that the service would report. -/
def reportedVolume? (session : Session σ) : Option Nat :=
  session.player.bind fun service =>
    match (Service.answer .status service).1 with
    | .ok (status : Status) => status.volume
    | .error _ => none

theorem exists_of_reportedVolume? {session : Session σ} {reported : Nat}
    (h : session.reportedVolume? = some reported) :
    ∃ service, session.player = some service ∧ ∃ (status : Status) (next : σ),
      Service.answer .status service = (.ok status, next) ∧ status.volume = some reported := by
  obtain ⟨service, hplayer, hreported⟩ := Option.bind_eq_some_iff.1 h
  refine ⟨service, hplayer, ?_⟩
  rcases hanswer : Service.answer .status service with ⟨error | status, next⟩
  · rw [hanswer] at hreported
    cases hreported
  · rw [hanswer] at hreported
    exact ⟨status, next, rfl, hreported⟩

end Session

namespace Command

/-- A number as it is written is where the volume should go, one with a sign is how far it should go from
where it is, and both end at the quietest and the loudest. -/
def wantedVolume? (text : String) (reported : Nat) (before : Option Nat) : Option Nat :=
  if text = "mute" then if 0 < reported then some 0 else before
  else (Token.word text).toInt?.map fun (n : Int) =>
    (max 0 (min (if (Token.word text).isRelative then reported + n else n) 100)).toNat

/-- An amount is too large for the sum to fit a signed 64-bit word. -/
def Overflows (text : String) (reported : Nat) : Prop :=
  (Token.word text).isRelative = true ∧
    ∃ n, (Token.word text).toInt? = some n ∧ 9223372036854775807 < (reported : Int) + n

theorem least_le_of_toInt? {token : Token} {n : Int} (h : token.toInt? = some n) :
    -9223372036854775808 ≤ n := by
  cases token with
  | word text => exact (of_decide_eq_true (Option.filter_eq_some_iff.1 h).2).1
  | quoted _ | stray _ | endOfLine => cases h

/-- An amount that was read cannot be too small for a sum, for no volume is negative. -/
theorem addAmount?_eq {n : Int} (hleast : -9223372036854775808 ≤ n) (reported : Nat) :
    addAmount? reported n =
      if 9223372036854775807 < (reported : Int) + n then none else some (reported + n) := by
  unfold addAmount?
  dsimp only
  split <;> split <;> first | rfl | omega

/-- A word that means a change is `mute` or a number. -/
theorem volumeChange_cases {text : String} {change : VolumeChange}
    (h : volumeChange (.word text) = .ok change) :
    text = "mute" ∧ change = .toggleMute ∨
      text ≠ "mute" ∧ ∃ n, (Token.word text).toInt? = some n ∧
        change = if (Token.word text).isRelative then .relative n else .absolute n := by
  by_cases hmute : text = "mute"
  · subst hmute
    exact .inl ⟨rfl, (Except.ok.inj h).symm⟩
  · rw [volumeChange, Token.text, if_neg hmute] at h
    cases hn : (Token.word text).toInt? with
    | none =>
      rw [hn] at h
      cases h
    | some n =>
      rw [hn] at h
      exact .inr ⟨hmute, n, rfl, (Except.ok.inj h).symm⟩

theorem exists_volumeChange_iff {text : String} :
    (∃ change, volumeChange (.word text) = .ok change) ↔
      text = "mute" ∨ (Token.word text).toInt?.isSome := by
  constructor
  · rintro ⟨change, h⟩
    rcases volumeChange_cases h with ⟨hmute, -⟩ | ⟨-, n, hn, -⟩
    · exact .inl hmute
    · exact .inr (hn ▸ rfl)
  · intro h
    by_cases hmute : text = "mute"
    · exact ⟨_, if_pos hmute⟩
    · obtain ⟨n, hn⟩ := Option.isSome_iff_exists.1 (h.resolve_left hmute)
      exact ⟨_, (if_neg hmute).trans (by rw [hn])⟩

theorem eq_toggleMute_iff {text : String} {change : VolumeChange}
    (h : volumeChange (.word text) = .ok change) : change = .toggleMute ↔ text = "mute" := by
  rcases volumeChange_cases h with ⟨rfl, rfl⟩ | ⟨hmute, n, -, rfl⟩
  · exact iff_of_true rfl rfl
  · refine iff_of_false ?_ hmute
    split <;> exact VolumeChange.noConfusion

section

variable {text : String} {change : VolumeChange} {reported : Nat}

/-- As long as sums fit a word, the volume after a change is the one that is wanted, and where none is
wanted there is nothing to go back to. -/
theorem target_of_not_overflows (h : volumeChange (.word text) = .ok change)
    (hfits : ¬Overflows text reported) (before : Option Nat) :
    change.target reported before =
      (wantedVolume? text reported before).elim
        (.error (.failed "Cannot unmute: no previous volume")) .ok := by
  rcases volumeChange_cases h with ⟨rfl, rfl⟩ | ⟨hmute, n, hn, rfl⟩
  · rw [wantedVolume?, if_pos rfl]
    change (if 0 < reported then _ else _) = _
    split
    · rfl
    · cases before <;> rfl
  · rw [wantedVolume?, if_neg hmute, hn, Option.map_some]
    cases hsign : (Token.word text).isRelative with
    | false => rfl
    | true =>
      have hsum := (addAmount?_eq (least_le_of_toInt? hn) reported).trans
        (if_neg fun hlt => hfits ⟨hsign, n, hn, hlt⟩)
      rw [if_pos rfl, VolumeChange.target, hsum]
      rfl

/-- Where a sum does not fit there is no volume to ask for, though the loudest is wanted. -/
theorem target_of_overflows (h : volumeChange (.word text) = .ok change)
    (hoverflows : Overflows text reported) (before : Option Nat) :
    change.target reported before = .error .overflow ∧
      wantedVolume? text reported before = some 100 := by
  obtain ⟨hsign, n, hn, hlt⟩ := hoverflows
  rcases volumeChange_cases h with ⟨rfl, -⟩ | ⟨hmute, n', hn', rfl⟩
  · cases hsign
  · obtain rfl : n = n' := Option.some.inj (hn.symm.trans hn')
    have hsum := (addAmount?_eq (least_le_of_toInt? hn) reported).trans (if_pos hlt)
    constructor
    · rw [if_pos hsign, VolumeChange.target, hsum]
    · rw [wantedVolume?, if_neg hmute, hn, Option.map_some, if_pos hsign]
      exact congrArg some (by omega)

end

section

variable {σ : Type} [Service σ] {session : Session σ} {change : VolumeChange} {memory : Option Nat}

omit [Service σ] in
/-- A request that passes by what the command remembers. -/
theorem run_run_requestBeside {α : Type} {service next : σ} {result : Except PlaybackError α}
    (hplayer : session.player = some service) (exchange : Exchange σ α)
    (hrun : exchange.run.run service = (result, next)) (memory : Option Nat) :
    (besideMemory (Session.request "set volume" exchange)).run.run (memory, session) =
      (result.mapError (.ofPlayback "set volume"), memory, { session with player := some next }) :=
  run_run_besideMemory (run_run_request hplayer "set volume" hrun) memory

/-- Without a volume reported nothing is asked for and nothing else remembered. -/
theorem run_run_changeVolume_of_not_reported (change : VolumeChange) (memory : Option Nat)
    (hreported : session.reportedVolume? = none) :
    ∃ error last, (changeVolume change).run.run (memory, session) = (.error error, memory, last) := by
  cases hplayer : session.player with
  | none =>
    have hasked := run_run_besideMemory (run_run_request_of_none hplayer "set volume"
      (Service.ask .status : Exchange σ Status)) memory
    exact ⟨_, _, run_run_bind_of_error hasked⟩
  | some service =>
    rcases hstatus : Service.answer .status service with ⟨result, next⟩
    have hasked := run_run_requestBeside hplayer (Service.ask .status : Exchange σ Status) hstatus memory
    cases result with
    | error error => exact ⟨_, _, run_run_bind_of_error hasked⟩
    | ok status =>
      have hnone : (status : Status).volume = none := by
        simpa [Session.reportedVolume?, hplayer, hstatus] using hreported
      rw [changeVolume, run_run_bind_of_ok hasked]
      simp only [hnone]
      exact ⟨_, _, rfl⟩

section

variable {service next : σ} {status : Status} {reported : Nat}

/-- With a volume reported but none to come after it, that is all that was asked. -/
theorem run_run_changeVolume_of_error (hplayer : session.player = some service)
    (hstatus : Service.answer .status service = (.ok status, next))
    (hreported : status.volume = some reported) {error : CommandError}
    (htarget : change.target reported memory = .error error) :
    (changeVolume change).run.run (memory, session) =
      (.error error, memory, { session with player := some next }) := by
  have hasked := run_run_requestBeside hplayer (Service.ask .status : Exchange σ Status) hstatus memory
  rw [changeVolume, run_run_bind_of_ok hasked]
  simp only [hreported]
  rw [Act.run_run_get_bind, htarget]
  rfl

/-- With a volume reported the new one is asked for. Success is remembered of a change between sound
and silence. -/
theorem run_run_changeVolume_of_ok (hplayer : session.player = some service)
    (hstatus : Service.answer .status service = (.ok status, next))
    (hreported : status.volume = some reported) {volume : Nat}
    (htarget : change.target reported memory = .ok volume) {result : Except PlaybackError Unit}
    {last : σ} (hset : Service.answer (.setVolume volume) next = (result, last)) :
    (changeVolume change).run.run (memory, session) =
      (result.mapError (.ofPlayback "set volume"),
        if (failure? result).isNone ∧ change = .toggleMute then
          if 0 < reported then some reported else none
        else memory,
        { session with player := some last }) := by
  have hasked := run_run_requestBeside hplayer (Service.ask .status : Exchange σ Status) hstatus memory
  have hdone := @run_run_requestBeside _ { session with player := some next } _ _ _ _ rfl
    (Service.ask (.setVolume volume) : Exchange σ Unit) hset memory
  rw [changeVolume, run_run_bind_of_ok hasked]
  simp only [hreported]
  rw [Act.run_run_get_bind, htarget]
  change StateT.run (ExceptT.run (besideMemory (Session.request "set volume" _) >>= _)) _ = _
  cases result with
  | error error => exact run_run_bind_of_error hdone
  | ok done =>
    refine (run_run_bind_of_ok hdone).trans ?_
    by_cases hchange : change = .toggleMute
    · simp only [hchange, if_true, and_true]
      rfl
    · simp only [hchange, if_false, and_false]
      rfl

end

/-- What is remembered changes only with a successful change between sound and silence. -/
theorem memory_changeVolume (change : VolumeChange) (memory : Option Nat) (session : Session σ) :
    ((changeVolume change).run.run (memory, session)).2.1 =
      if (failure? ((changeVolume change).run.run (memory, session)).1).isNone ∧
          change = .toggleMute then session.reportedVolume?.filter (0 < ·)
      else memory := by
  cases hreported : session.reportedVolume? with
  | none =>
    obtain ⟨error, last, hrun⟩ := run_run_changeVolume_of_not_reported change memory hreported
    rw [hrun]
    exact (if_neg fun h => Bool.false_ne_true h.1).symm
  | some reported =>
    obtain ⟨service, hplayer, status, next, hstatus, hvolume⟩ :=
      Session.exists_of_reportedVolume? hreported
    cases htarget : change.target reported memory with
    | error error =>
      rw [run_run_changeVolume_of_error hplayer hstatus hvolume htarget]
      exact (if_neg fun h => Bool.false_ne_true h.1).symm
    | ok volume =>
      rcases hset : Service.answer (.setVolume volume) next with ⟨error | done, last⟩
      · rw [run_run_changeVolume_of_ok hplayer hstatus hvolume htarget hset]
        rfl
      · rw [run_run_changeVolume_of_ok hplayer hstatus hvolume htarget hset]
        simp [failure?, Except.mapError, Option.filter_some]

end

/-! ### Lines for the volume -/

section

variable {σ : Type} [Service σ] {line : String} {words : List Token}

/-- A line for `volume` is refused as soon as it is read, or the change that was read is made. -/
theorem carryOutAnew_volume (hline : Token.ofLine line = .word "volume" :: (words ++ [.endOfLine]))
    (hwords : Token.endOfLine ∉ words) (unmuted : Option Nat) (session : Session σ) :
    carryOutAnew line unmuted session =
      match (Reader.oneWord "a volume" volumeChange).readLine session words with
      | .error error => (.error (.command error), unmuted, session)
      | .ok change =>
        let outcome := (changeVolume change).run.run (unmuted, session)
        (outcome.1.mapError .command, outcome.2.1, outcome.2.2) := by
  obtain ⟨arguments, hrun⟩ := @feedAll_ofReader _ _ _ (Reader.oneWord "a volume" volumeChange) none
    (changeVolume (σ := σ)) _ hwords (newVolume unmuted) session
  have hfeed : volume.feedAll (words ++ [.endOfLine]) (newVolume unmuted) session =
      concluded changeVolume ⟨arguments, unmuted⟩ session
        ((Reader.oneWord "a volume" volumeChange).readLine session words) := hrun
  rw [carryOutAnew, hline]
  simp only [if_true]
  rw [hfeed]
  cases (Reader.oneWord "a volume" volumeChange).readLine session words <;> rfl

end

end Command

/-- A line that was carried out: the session in which it began, and its result. -/
structure Turn (σ : Type) where
  line : String
  session : Session σ
  result : Except DispatchError Unit

/-- What volume there is to go back to after a line that muted or undid a muting, if it is one: the one
that was reported if that was to be heard. -/
def Turn.toggled? {σ : Type} [Service σ] (turn : Turn σ) : Option (Option Nat) :=
  if Token.ofLine turn.line = [.word "volume", .word "mute", .endOfLine] ∧
      (failure? turn.result).isNone then
    some (turn.session.reportedVolume?.filter (0 < ·))
  else none

/-- The volume before the last muting, unless that was undone. -/
def volumeBefore? {σ : Type} [Service σ] (turns : List (Turn σ)) : Option Nat :=
  (turns.filterMap Turn.toggled?).getLast?.getD none

namespace Command

variable {σ : Type} [Service σ]

/-- What is remembered for muting changes with the lines that mute or undo a muting. -/
theorem memory_carryOutAnew (line : String) (unmuted : Option Nat) (session : Session σ) :
    (carryOutAnew line unmuted session).2.1 =
      (Turn.toggled? ⟨line, session, (carryOutAnew line unmuted session).1⟩).getD unmuted := by
  cases hline : Token.ofLine line with
  | nil => simp [carryOutAnew, Turn.toggled?, hline]
  | cons first tokens =>
    cases first with
    | endOfLine | quoted _ | stray _ => simp [carryOutAnew, Turn.toggled?, hline]
    | word name =>
      by_cases hname : name = "volume"
      · subst hname
        obtain ⟨words, rfl, hwords⟩ := Token.exists_words_of_ofLine hline Token.noConfusion
        rw [carryOutAnew_volume hline hwords]
        cases hread : (Reader.oneWord "a volume" volumeChange).readLine session words with
        | error error => simp [Turn.toggled?, failure?]
        | ok change =>
          obtain ⟨text, rfl, hchange⟩ := Reader.readLine_oneWord_eq_ok_iff.1 hread
          have htokens : (Token.word "volume" :: ([.word text] ++ [.endOfLine]) =
              [.word "volume", .word "mute", .endOfLine]) ↔ change = .toggleMute := by
            rw [eq_toggleMute_iff hchange]
            simp
          dsimp only
          rw [memory_changeVolume, Turn.toggled?, hline]
          simp only [htokens, isNone_failure?_mapError, and_comm]
          split <;> rfl
      · have hnot : (Turn.toggled? ⟨line, session, (carryOutAnew line unmuted session).1⟩) = none :=
          if_neg fun h => hname (by simpa [hline] using congrArg List.head? h.1)
        rw [hnot, carryOutAnew, hline]
        simp only [if_neg hname]
        split <;> rfl

/-- The volume is asked for that is set, and then the new one if there is one. -/
theorem carryOutAnew_asks {line text : String} {change : VolumeChange} {reported : Nat}
    {session : Session (Observed σ)} (hline : Token.ofLine line = [.word "volume", .word text, .endOfLine])
    (hchange : volumeChange (.word text) = .ok change)
    (hreported : session.reportedVolume? = some reported) (unmuted : Option Nat) :
    (∀ volume, change.target reported unmuted = .ok volume →
        (carryOutAnew line unmuted session).2.2.requests =
          session.requests ++ [.status, .setVolume volume]) ∧
      ∀ error, change.target reported unmuted = .error error →
        (carryOutAnew line unmuted session).2.2.requests = session.requests ++ [.status] ∧
          (carryOutAnew line unmuted session).1 = .error (.command error) := by
  have hread : (Reader.oneWord "a volume" volumeChange).readLine session [.word text] = .ok change :=
    Reader.readLine_oneWord_eq_ok_iff.2 ⟨text, rfl, hchange⟩
  have hwords : Token.endOfLine ∉ [Token.word text] := by simp
  obtain ⟨observed, hplayer, status, next, hstatus, hvolume⟩ :=
    Session.exists_of_reportedVolume? hreported
  have hnext : next.calls.map (·.request) = session.requests ++ [.status] := by
    have hasked : (Service.answer .status observed).2 = next := congrArg Prod.snd hstatus
    rw [← hasked, Observed.calls_answer, List.map_append, Session.requests_of_player_eq hplayer]
    rfl
  have hline : Token.ofLine line = .word "volume" :: ([.word text] ++ [.endOfLine]) := hline
  rw [carryOutAnew_volume hline hwords, hread]
  constructor
  · intro volume htarget
    dsimp only
    rw [run_run_changeVolume_of_ok hplayer hstatus hvolume htarget rfl,
      Session.requests_of_player_eq rfl]
    change List.map (·.request) (Service.answer (.setVolume volume) next).2.calls = _
    rw [Observed.calls_answer, List.map_append, hnext, List.append_assoc]
    rfl
  · intro error htarget
    dsimp only
    rw [run_run_changeVolume_of_error hplayer hstatus hvolume htarget]
    exact ⟨hnext, rfl⟩

end Command

namespace Dispatcher

variable {σ : Type} [Service σ] {dispatcher : Dispatcher (Session σ)} {unmuted : Option Nat}

/-- Carries out lines one after another, each in a session of its own, and tells what came of each. -/
def turns (dispatcher : Dispatcher (Session σ)) :
    List (String × Session σ) → List (Turn σ) × Dispatcher (Session σ)
  | [] => ([], dispatcher)
  | (line, session) :: rest =>
    let done := dispatcher.dispatch line session
    let (later, last) := done.2.1.turns rest
    (⟨line, session, done.1⟩ :: later, last)

/-- After any lines the volume to go back to is the one before the last muting that was not undone. -/
theorem Remembers.turns (h : dispatcher.Remembers unmuted) (history : List (String × Session σ)) :
    (dispatcher.turns history).2.Remembers
      (((dispatcher.turns history).1.filterMap Turn.toggled?).getLast?.getD unmuted) := by
  induction history generalizing dispatcher unmuted with
  | nil => exact h
  | cons first rest ih =>
    obtain ⟨line, session⟩ := first
    have hagree := h.agree line session
    have hcarried := hagree.carried
    rw [Command.memory_carryOutAnew, ← hagree.answer] at hcarried
    have hrest := ih hcarried
    rw [turns]
    dsimp only
    cases htoggled : Turn.toggled? ⟨line, session, (dispatcher.dispatch line session).1⟩ with
    | none =>
      rw [htoggled] at hrest
      rw [List.filterMap_cons_none htoggled]
      exact hrest
    | some memory =>
      rw [htoggled] at hrest
      rw [List.filterMap_cons_some htoggled, List.getLast?_cons]
      exact hrest

/-- A line for `volume` that is not of the right form does nothing. -/
theorem Remembers.dispatch_volume (h : dispatcher.Remembers unmuted) {line : String}
    {tokens : List Token} (hline : Token.ofLine line = .word "volume" :: tokens)
    (session : Session σ) :
    (∃ text, tokens = [.word text, .endOfLine] ∧
      (text = "mute" ∨ (Token.word text).toInt?.isSome)) ∨
    (dispatcher.dispatch line session).2.2 = session := by
  obtain ⟨words, rfl, hwords⟩ := Token.exists_words_of_ofLine hline Token.noConfusion
  cases hread : (Reader.oneWord "a volume" Command.volumeChange).readLine session words with
  | ok change =>
    obtain ⟨text, rfl, hchange⟩ := Reader.readLine_oneWord_eq_ok_iff.1 hread
    exact .inl ⟨text, rfl, Command.exists_volumeChange_iff.1 ⟨change, hchange⟩⟩
  | error error =>
    right
    rw [(h.agree line session).state, Command.carryOutAnew_volume hline hwords, hread]

end Dispatcher

open Command

/-- After any lines, each of them carried out in any session and some of them in vain, a line for `volume`
is not of the right form and does nothing, or it asks what the volume is and, if the service reports one,
for the volume that is wanted then. Just where the sum with an amount does not fit a 64-bit word it asks
for nothing more while the loudest is wanted, and the program ends. If no volume is wanted, because
nothing is left to go back to from silence, the line says so. -/
theorem wanted_volume_is_asked_for_iff (σ : Type) [Service σ]
    (history : List (String × Session (Observed σ))) :
    let past := Dispatcher.standard.turns history
    (∀ (line : String) (tokens : List Token) (session : Session (Observed σ)),
      Token.ofLine line = .word "volume" :: tokens →
      (∃ text, tokens = [.word text, .endOfLine] ∧
        (text = "mute" ∨ (Token.word text).toInt?.isSome)) ∨
      (past.2.dispatch line session).2.2 = session) ∧
    ∀ (line text : String) (session : Session (Observed σ)) (reported : Nat),
      Token.ofLine line = [.word "volume", .word text, .endOfLine] →
      (text = "mute" ∨ (Token.word text).toInt?.isSome) →
      session.reportedVolume? = some reported →
      let wanted := wantedVolume? text reported (volumeBefore? past.1)
      let done := past.2.dispatch line session
      (done.2.2.requests = session.requests ++ .status :: wanted.toList.map .setVolume ↔
        ¬Overflows text reported) ∧
      (Overflows text reported → wanted = some 100 ∧
        done.2.2.requests = session.requests ++ [.status] ∧
        done.1 = .error (.command .overflow) ∧
        (DispatchError.command .overflow).endsProgram = true) ∧
      (wanted = none →
        done.1 = .error (.command (.failed "Cannot unmute: no previous volume"))) := by
  intro past
  have hpast : past.2.Remembers (volumeBefore? past.1) :=
    Dispatcher.remembers_standard.turns history
  refine ⟨fun line tokens session hline => hpast.dispatch_volume hline session, ?_⟩
  intro line text session reported hline htext hreported wanted done
  obtain ⟨change, hchange⟩ := exists_volumeChange_iff.2 htext
  obtain ⟨hasked, hrefused⟩ := carryOutAnew_asks hline hchange hreported (volumeBefore? past.1)
  rw [← (hpast.agree line session).state] at hasked hrefused
  rw [← (hpast.agree line session).answer] at hrefused
  by_cases hover : Overflows text reported
  · obtain ⟨htarget, hwanted : wanted = some 100⟩ := target_of_overflows hchange hover _
    obtain ⟨hrequests, hended⟩ := hrefused _ htarget
    refine ⟨iff_of_false (fun h => ?_) (not_not_intro hover),
      fun _ => ⟨hwanted, hrequests, hended, rfl⟩, fun hnone => nomatch hwanted.symm.trans hnone⟩
    rw [hwanted] at h
    have hsame := List.append_cancel_left (hrequests.symm.trans h)
    simp at hsame
  · have htarget := target_of_not_overflows hchange hover (volumeBefore? past.1)
    change change.target reported (volumeBefore? past.1) = wanted.elim _ _ at htarget
    cases hwanted : wanted with
    | none =>
      rw [hwanted] at htarget
      obtain ⟨hrequests, hsays⟩ := hrefused _ htarget
      exact ⟨iff_of_true hrequests hover, fun h => absurd h hover, fun _ => hsays⟩
    | some volume =>
      rw [hwanted] at htarget
      exact ⟨iff_of_true (hasked _ htarget) hover, fun h => absurd h hover, nofun⟩

/-- A session with a service that plays at some volume. -/
def playingAt (volume : Nat) : Session (Observed Rehearsal) where
  player := some (.fresh { status := { volume := some volume } })
  chance := .first

/-- A muting at 50, then a line that is refused and one that brings the volume to 20: in silence `mute`
goes back to 50. -/
theorem muting_is_undone_later :
    let past := Dispatcher.standard.turns
      [("volume mute", playingAt 50), ("volume loud", playingAt 0), ("volume +20", playingAt 0)]
    Token.ofLine "volume mute" = [.word "volume", .word "mute", .endOfLine] ∧
    (playingAt 0).reportedVolume? = some 0 ∧ volumeBefore? past.1 = some 50 ∧
    ¬Overflows "mute" 0 ∧
    (past.2.dispatch "volume mute" (playingAt 0)).2.2.requests = [.status, .setVolume 50] := by
  intro past
  have hline : Token.ofLine "volume mute" = [.word "volume", .word "mute", .endOfLine] := by
    decide +kernel
  have hreported : (playingAt 0).reportedVolume? = some 0 := by decide +kernel
  have hbefore : volumeBefore? past.1 = some 50 := by decide +kernel
  have hfits : ¬Overflows "mute" 0 := fun h => nomatch h.1
  obtain ⟨-, hasks⟩ := wanted_volume_is_asked_for_iff Rehearsal
    [("volume mute", playingAt 50), ("volume loud", playingAt 0), ("volume +20", playingAt 0)]
  obtain ⟨hiff, -⟩ := hasks "volume mute" "mute" (playingAt 0) 0 hline (.inl rfl) hreported
  have hasked := hiff.2 hfits
  rw [hbefore] at hasked
  exact ⟨hline, hreported, hbefore, hfits, hasked⟩

/-- At 50 the largest amount ends the program, though the loudest is wanted. -/
theorem largest_amount_overflows :
    let done := Dispatcher.standard.dispatch "volume +9223372036854775807" (playingAt 50)
    Token.ofLine "volume +9223372036854775807" =
      [.word "volume", .word "+9223372036854775807", .endOfLine] ∧
    (playingAt 50).reportedVolume? = some 50 ∧
    wantedVolume? "+9223372036854775807" 50 none = some 100 ∧
    failure? done.1 = some (.command .overflow) ∧ done.2.2.requests = [.status] := by
  decide +kernel

end Jukebox
