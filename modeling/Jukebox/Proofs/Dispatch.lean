import Mathlib.Data.List.Nodup
import Jukebox.Command.Builtin
import Jukebox.Proofs.Line
import Jukebox.Proofs.Outcome

/-
# How a line reaches its command

All that a dispatcher can make of a line is listed once: it passes over a blank one, it complains
about the first token, or it has the first command of a name carry out the rest of the line. In none
of these cases a command is added, dropped or put under another name, so a dispatcher that offers the
commands of the client offers them for ever.
-/

namespace Jukebox

variable {ω : Type}

namespace Dispatcher

/-- The commands by name, without what they remember. -/
def offered (dispatcher : Dispatcher ω) : List (String × Command ω) :=
  dispatcher.commands.map fun entry => (entry.name, entry.command)

/-- Whether just these commands are registered, in this order. -/
def Offers (dispatcher : Dispatcher ω) (commands : List (String × Command ω)) : Prop :=
  dispatcher.offered = commands

/-- What can become of a line. -/
inductive Dispatched (dispatcher : Dispatcher ω) (line : String) (world : ω) :
    Except DispatchError Unit × Dispatcher ω × ω → Prop
  | /-- There is nothing on the line. -/
    blank : Dispatched dispatcher line world (.ok (), dispatcher, world)
  | /-- The line does not begin with a word. -/
    notACommand (text : String) :
      Dispatched dispatcher line world (.error (.notACommand text), dispatcher, world)
  | /-- The line begins with a word that is no name. -/
    notFound (name : String) :
      Dispatched dispatcher line world (.error (.notFound name), dispatcher, world)
  | /-- A command gets the rest of the line, of which it remembers what it likes. -/
    ran {entry : RegisteredCommand ω} {words : List Token} {after : Dispatcher ω}
      (hline : Token.ofLine line = .word entry.name :: (words ++ [.endOfLine]))
      (hwords : Token.endOfLine ∉ words)
      (hentry : dispatcher.commands.find? (·.name = entry.name) = some entry)
      (hafter : after.offered = dispatcher.offered) :
      Dispatched dispatcher line world
        ((entry.command.runLine (words ++ [.endOfLine]) entry.state world).1.mapError .command,
          after, (entry.command.runLine (words ++ [.endOfLine]) entry.state world).2.2)

/-- The first command of a name runs the line, and stays the command that it is. -/
theorem runNamed?_eq_some {name : String} {tokens : List Token} {world after : ω}
    {entries entries' : List (RegisteredCommand ω)} {result : Except CommandError Unit}
    (h : runNamed? name tokens world entries = some (result, entries', after)) :
    ∃ entry, entries.find? (·.name = name) = some entry ∧
      result = (entry.command.runLine tokens entry.state world).1 ∧
      after = (entry.command.runLine tokens entry.state world).2.2 ∧
      entries'.map (fun entry => (entry.name, entry.command)) =
        entries.map fun entry => (entry.name, entry.command) := by
  induction entries generalizing entries' with
  | nil => cases h
  | cons entry entries ih =>
    unfold runNamed? at h
    by_cases hname : entry.name = name
    · rw [if_pos hname] at h
      obtain ⟨rfl, rfl, rfl⟩ := by simpa only [Option.some.injEq, Prod.mk.injEq] using h
      exact ⟨entry, by simp [hname], rfl, rfl, rfl⟩
    · rw [if_neg hname, Option.map_eq_some_iff] at h
      obtain ⟨⟨result', rest, after'⟩, hrest, heq⟩ := h
      obtain ⟨rfl, rfl, rfl⟩ := by simpa only [Prod.mk.injEq] using heq
      obtain ⟨found, hfind, hresult, hafter, hsame⟩ := ih hrest
      refine ⟨found, ?_, hresult, hafter, ?_⟩
      · rw [List.find?_cons_of_neg (by simpa using hname), hfind]
      · rw [List.map_cons, List.map_cons, hsame]

theorem runNamed?_eq_none {name : String} {tokens : List Token} {world : ω}
    {entries : List (RegisteredCommand ω)} (h : runNamed? name tokens world entries = none) :
    entries.find? (·.name = name) = none := by
  induction entries with
  | nil => rfl
  | cons entry entries ih =>
    unfold runNamed? at h
    by_cases hname : entry.name = name
    · rw [if_pos hname] at h
      cases h
    · rw [if_neg hname, Option.map_eq_none_iff] at h
      rw [List.find?_cons_of_neg (by simpa using hname), ih h]

theorem dispatched (dispatcher : Dispatcher ω) (line : String) (world : ω) :
    Dispatched dispatcher line world (dispatcher.dispatch line world) := by
  unfold dispatch
  split
  · exact .blank
  · exact .blank
  · next name tokens hline =>
    obtain ⟨words, rfl, hwords⟩ := Token.exists_words_of_ofLine hline nofun
    split
    · next result commands after hrun =>
      obtain ⟨entry, hfind, rfl, rfl, hsame⟩ := runNamed?_eq_some hrun
      obtain rfl : entry.name = name := by simpa using List.find?_some hfind
      exact .ran hline hwords hfind hsame
    · exact .notFound name
  · exact .notACommand _

/-- Carrying out a line leaves the commands registered that were. -/
theorem offered_dispatch (dispatcher : Dispatcher ω) (line : String) (world : ω) :
    (dispatcher.dispatch line world).2.1.offered = dispatcher.offered := by
  have h := dispatcher.dispatched line world
  generalize dispatcher.dispatch line world = outcome at h ⊢
  cases h with
  | blank | notACommand | notFound => rfl
  | ran _ _ _ hafter => exact hafter

theorem Offers.dispatch {dispatcher : Dispatcher ω} {commands : List (String × Command ω)}
    (h : dispatcher.Offers commands) (line : String) (world : ω) :
    (dispatcher.dispatch line world).2.1.Offers commands :=
  (dispatcher.offered_dispatch line world).trans h

theorem Offers.mem {dispatcher : Dispatcher ω} {commands : List (String × Command ω)}
    (h : dispatcher.Offers commands) {name : String} {entry : RegisteredCommand ω}
    (hentry : dispatcher.commands.find? (·.name = name) = some entry) :
    (entry.name, entry.command) ∈ commands := by
  rw [← h]
  exact List.mem_map_of_mem (List.mem_of_find?_eq_some hentry)

/-- Where names are not used twice, a name on offer stands for its command. -/
theorem Offers.exists_find? {dispatcher : Dispatcher ω} {commands : List (String × Command ω)}
    (h : dispatcher.Offers commands) (hnames : (commands.map (·.1)).Nodup) {name : String}
    {command : Command ω} (hmem : (name, command) ∈ commands) :
    ∃ state, dispatcher.commands.find? (·.name = name) = some ⟨name, command, state⟩ := by
  have hoffered : (name, command) ∈ dispatcher.offered := h.symm ▸ hmem
  obtain ⟨entry, hentry, hpair⟩ := List.mem_map.1 hoffered
  have hname : entry.name = name := congrArg Prod.fst hpair
  have hsome : (dispatcher.commands.find? (·.name = name)).isSome :=
    List.find?_isSome.2 ⟨entry, hentry, by simpa using hname⟩
  obtain ⟨found, hfound⟩ := Option.isSome_iff_exists.1 hsome
  obtain rfl : found.name = name := by simpa using List.find?_some hfound
  have hsame : (found.name, found.command) = (found.name, command) :=
    List.inj_on_of_nodup_map hnames (h.mem hfound) hmem rfl
  obtain ⟨foundName, foundCommand, state⟩ := found
  obtain rfl : foundCommand = command := congrArg Prod.snd hsame
  exact ⟨state, hfound⟩

/-- A line is carried out by the command that its first word stands for. -/
theorem dispatch_of_find? {dispatcher : Dispatcher ω} {line name : String} {tokens : List Token}
    {entry : RegisteredCommand ω} (hline : Token.ofLine line = .word name :: tokens)
    (hentry : dispatcher.commands.find? (·.name = name) = some entry) (world : ω) :
    (dispatcher.dispatch line world).1 =
        (entry.command.runLine tokens entry.state world).1.mapError .command ∧
      (dispatcher.dispatch line world).2.2 =
        (entry.command.runLine tokens entry.state world).2.2 := by
  unfold dispatch
  rw [hline]
  dsimp only
  split
  · next result commands after hrun =>
    obtain ⟨found, hfound, rfl, rfl, -⟩ := runNamed?_eq_some hrun
    obtain rfl : entry = found := Option.some.inj (hentry.symm.trans hfound)
    exact ⟨rfl, rfl⟩
  · next hrun =>
    rw [runNamed?_eq_none hrun] at hentry
    cases hentry

/-- A line of a simple command is refused and changes nothing, or is acted on as it was read. -/
theorem Offers.dispatch_simple {dispatcher : Dispatcher ω} {commands : List (String × Command ω)}
    (h : dispatcher.Offers commands) (hnames : (commands.map (·.1)).Nodup) {α : Type}
    {reader : Reader ω α} {act : α → Act ω Unit} {line name : String} {tokens : List Token}
    (hmem : (name, Command.simple reader act) ∈ commands)
    (hline : Token.ofLine line = .word name :: tokens) (world : ω) :
    ∃ words, tokens = words ++ [.endOfLine] ∧
      ((∃ error, reader.readLine world words = .error error ∧
        (dispatcher.dispatch line world).1 = .error (.command error) ∧
        (dispatcher.dispatch line world).2.2 = world) ∨
      ∃ value, reader.readLine world words = .ok value ∧
        (dispatcher.dispatch line world).1 = ((act value).run.run world).1.mapError .command ∧
        (dispatcher.dispatch line world).2.2 = ((act value).run.run world).2) := by
  obtain ⟨words, rfl, hwords⟩ := Token.exists_words_of_ofLine hline nofun
  obtain ⟨state, hentry⟩ := h.exists_find? hnames hmem
  obtain ⟨hresult, hworld⟩ := dispatch_of_find? hline hentry world
  rw [hresult, hworld]
  refine ⟨words, rfl, ?_⟩
  rcases Command.runLine_simple_cases hwords state world with
    ⟨error, hread, herror, hsame⟩ | ⟨value, hread, hvalue, hafter⟩
  · exact .inl ⟨error, hread, congrArg (Except.mapError _) herror, hsame⟩
  · exact .inr ⟨value, hread, congrArg (Except.mapError _) hvalue, hafter⟩

/-- A command with its name before it has seen a line. -/
def atFirst (pair : String × Command ω) : RegisteredCommand ω := ⟨pair.1, pair.2, pair.2.fresh⟩

theorem offered_atFirst (commands : List (String × Command ω)) :
    ({ commands := commands.map atFirst } : Dispatcher ω).offered = commands := by
  rw [offered, List.map_map]
  exact List.map_id commands

theorem commands_register {dispatcher after : Dispatcher ω} {name : String} {command : Command ω}
    (h : dispatcher.register name command = .ok after) :
    after.commands = dispatcher.commands ++ [atFirst (name, command)] := by
  unfold register at h
  split at h
  · cases h
  · cases h
    rfl

/-- A name is refused only if it is taken. -/
theorem exists_register_eq_ok {dispatcher : Dispatcher ω} {name : String} (command : Command ω)
    (h : name ∉ dispatcher.offered.map (·.1)) :
    ∃ after, dispatcher.register name command = .ok after := by
  refine ⟨_, if_neg ?_⟩
  intro htaken
  obtain ⟨entry, hentry, hname⟩ := List.any_eq_true.1 htaken
  refine h (List.mem_map.2 ⟨(entry.name, entry.command), List.mem_map_of_mem hentry, ?_⟩)
  exact eq_of_beq hname

/-- Where names are not used twice, all commands are registered. -/
theorem commands_registerAll {dispatcher : Dispatcher ω} {commands : List (String × Command ω)}
    (hnames : ((dispatcher.offered ++ commands).map (·.1)).Nodup) :
    (dispatcher.registerAll commands).2.commands =
      dispatcher.commands ++ commands.map atFirst := by
  induction commands generalizing dispatcher with
  | nil => rw [registerAll, List.map_nil, List.append_nil]
  | cons pair commands ih =>
    obtain ⟨name, command⟩ := pair
    have hfresh : name ∉ dispatcher.offered.map (·.1) := by
      rw [List.map_append, List.nodup_append] at hnames
      intro htaken
      exact hnames.2.2 name htaken name (by simp) rfl
    obtain ⟨after, hafter⟩ := exists_register_eq_ok command hfresh
    have hcommands := commands_register hafter
    have hoffered : after.offered = dispatcher.offered ++ [(name, command)] := by
      rw [offered, hcommands, List.map_append]
      rfl
    rw [registerAll, hafter]
    have hrest : ((after.offered ++ commands).map (·.1)).Nodup := by simpa [hoffered] using hnames
    rw [ih hrest, hcommands, List.append_assoc, List.map_cons, List.singleton_append]

theorem registerAll_eq {commands : List (String × Command ω)}
    (hnames : (commands.map (·.1)).Nodup) :
    (registerAll {} commands).2 = { commands := commands.map atFirst } := by
  have hcommands := @commands_registerAll _ {} _ hnames
  exact congrArg Dispatcher.mk (hcommands.trans (List.nil_append _))

theorem nodup_names_builtin {σ : Type} [Service σ] :
    ((Command.builtin : List (String × Command (Session σ))).map (·.1)).Nodup := by
  simp only [Command.builtin, List.map_cons, List.map_nil]
  decide

theorem standard_eq {σ : Type} [Service σ] :
    (standard : Dispatcher (Session σ)) = { commands := Command.builtin.map atFirst } :=
  registerAll_eq nodup_names_builtin

/-- The dispatcher of the client offers all its commands. -/
theorem offers_standard {σ : Type} [Service σ] :
    (standard : Dispatcher (Session σ)).Offers Command.builtin := by
  rw [standard_eq]
  exact offered_atFirst Command.builtin

/-- The token that the command of a line gives up at, if it does so. -/
def givesUpAt? (dispatcher : Dispatcher ω) (line : String) (world : ω) : Option Token :=
  match Token.ofLine line with
  | .word name :: tokens =>
    (dispatcher.commands.find? (·.name = name)).bind fun entry =>
      let (state, world) := entry.command.reset entry.state world
      entry.command.givesUpAt? tokens state world
  | _ => none

/-- Whether a line fails before its end: its command gives up at a word, or it names no command. -/
def FailsBeforeEnd (dispatcher : Dispatcher ω) (line : String) (world : ω) : Prop :=
  (∃ token, dispatcher.givesUpAt? line world = some token ∧ token ≠ .endOfLine) ∨
    (∃ name, (dispatcher.dispatch line world).1 = .error (.notFound name)) ∨
    ∃ text, (dispatcher.dispatch line world).1 = .error (.notACommand text)

/-- A line that fails does so before its end or there. -/
theorem failsBeforeEnd_or_of_dispatch_error {dispatcher : Dispatcher ω} {line : String} {world : ω}
    {error : DispatchError} (hfailed : (dispatcher.dispatch line world).1 = .error error) :
    dispatcher.FailsBeforeEnd line world ∨
      dispatcher.givesUpAt? line world = some .endOfLine := by
  unfold FailsBeforeEnd
  have h := dispatcher.dispatched line world
  generalize dispatcher.dispatch line world = outcome at h hfailed ⊢
  cases h with
  | blank => cases hfailed
  | notACommand text => exact .inl (.inr (.inr ⟨text, rfl⟩))
  | notFound name => exact .inl (.inr (.inl ⟨name, rfl⟩))
  | @ran entry words _ hline _ hentry _ =>
    obtain ⟨cause, hcause, -⟩ := exists_of_mapError_eq_error hfailed
    have hsome := (entry.command.exists_error_iff_givesUpAt? _ _ _).1 ⟨cause, hcause⟩
    obtain ⟨token, htoken⟩ := Option.isSome_iff_exists.1 hsome
    have hgives : dispatcher.givesUpAt? line world = some token := by
      rw [givesUpAt?, hline]
      simp only [hentry, Option.bind_some]
      exact htoken
    by_cases hend : token = .endOfLine
    · exact .inr (hend ▸ hgives)
    · exact .inl (.inl ⟨token, hgives, hend⟩)

end Dispatcher

end Jukebox
