import Jukebox.Dispatcher

/-
# What becomes of a command line

A line is a run of words with its end after them. A command made of a reader and an action takes in
the words without touching the state it shares; it acts, if at all, at the end of the line. So a line
that is given up before its end has done nothing, and all that is left to say of a command is what
its action does.
-/

namespace Jukebox

namespace Token

theorem ne_endOfLine_of_next? {text rest : List Char} {token : Token}
    (h : next? text = some (token, rest)) : token ≠ .endOfLine := by
  unfold next? at h
  split at h
  · cases h
  · split at h
    · split at h <;> cases h <;> exact Token.noConfusion
    · split at h <;> cases h <;> exact Token.noConfusion

/-- The end of the line comes last, and nowhere else. -/
theorem exists_scan_eq (text : List Char) :
    ∃ words, scan text = words ++ [.endOfLine] ∧ Token.endOfLine ∉ words := by
  induction text using scan.induct with
  | case1 text hnext =>
    rw [scan]
    split
    · exact ⟨[], rfl, List.not_mem_nil⟩
    · next token rest hsome => exact absurd (hnext.symm.trans hsome) nofun
  | case2 text token rest hnext ih =>
    obtain ⟨words, hscan, hwords⟩ := ih
    refine ⟨token :: words, ?_, ?_⟩
    · rw [scan]
      split
      · next hnone => exact absurd (hnext.symm.trans hnone) nofun
      · next other tail hsome =>
        obtain ⟨rfl, rfl⟩ : other = token ∧ tail = rest := by
          simpa [eq_comm] using hnext.symm.trans hsome
        rw [hscan, List.cons_append]
    · rw [List.mem_cons, not_or]
      exact ⟨(ne_endOfLine_of_next? hnext).symm, hwords⟩

/-- A line that begins with a word names a command and goes on with words up to its end. -/
theorem exists_words_of_ofLine {line : String} {first : Token} {tokens : List Token}
    (h : ofLine line = first :: tokens) (hfirst : first ≠ .endOfLine) :
    ∃ words, tokens = words ++ [.endOfLine] ∧ Token.endOfLine ∉ words := by
  obtain ⟨words, hscan, hwords⟩ := exists_scan_eq line.toList
  rw [ofLine, hscan] at h
  cases words with
  | nil =>
    obtain ⟨rfl, -⟩ : Token.endOfLine = first ∧ [] = tokens := by simpa using h
    exact absurd rfl hfirst
  | cons word words =>
    obtain ⟨-, rfl⟩ : word = first ∧ words ++ [.endOfLine] = tokens := by simpa using h
    exact ⟨words, rfl, fun hmem => hwords (List.mem_cons_of_mem _ hmem)⟩

end Token

variable {ω α μ : Type}

/-- Reads the words of a line one after another and concludes. -/
def Reader.readLine (reader : Reader ω α) (world : ω) (words : List Token) :
    Except CommandError α :=
  words.foldlM (reader.read world) reader.start >>= reader.result

namespace Command

theorem feedAll_cons (command : Command ω) (token : Token) (tokens : List Token)
    (state : command.State) (world : ω) :
    command.feedAll (token :: tokens) state world =
      match command.feed token state world with
      | (.ok (), state, world) => command.feedAll tokens state world
      | failure => failure := rfl

theorem feedAll_singleton (command : Command ω) (token : Token) (state : command.State)
    (world : ω) : command.feedAll [token] state world = command.feed token state world := by
  rw [feedAll_cons]
  rcases command.feed token state world with ⟨_ | _, _, _⟩ <;> rfl

/-- The token that a command gives up at, if it does so before there are no more. -/
def givesUpAt? (command : Command ω) : List Token → command.State → ω → Option Token
  | [], _, _ => none
  | token :: tokens, state, world =>
    match command.feed token state world with
    | (.ok (), state, world) => command.givesUpAt? tokens state world
    | _ => some token

/-- A command fails just when it gives up at some token. -/
theorem exists_error_iff_givesUpAt? (command : Command ω) (tokens : List Token)
    (state : command.State) (world : ω) :
    (∃ error, (command.feedAll tokens state world).1 = .error error) ↔
      (command.givesUpAt? tokens state world).isSome := by
  induction tokens generalizing state world with
  | nil => simp [feedAll, givesUpAt?]
  | cons token tokens ih =>
    unfold feedAll givesUpAt?
    rcases command.feed token state world with ⟨_ | _, next, world⟩
    · simp
    · exact ih next world

/-- A command that changes the state it shares at the end of a line only. -/
structure ActsAtEnd (command : Command ω) : Prop where
  reset : ∀ state world, (command.reset state world).2 = world
  feed : ∀ token state world, token ≠ .endOfLine → (command.feed token state world).2.2 = world

/-- Words that are read up to one that is of no use change nothing. -/
theorem ActsAtEnd.feedAll_of_givesUpAt? {command : Command ω} (hcommand : command.ActsAtEnd)
    {words : List Token} (hwords : Token.endOfLine ∉ words) {token : Token}
    (htoken : token ≠ .endOfLine) (state : command.State) (world : ω)
    (h : command.givesUpAt? (words ++ [.endOfLine]) state world = some token) :
    (command.feedAll (words ++ [.endOfLine]) state world).2.2 = world := by
  induction words generalizing state with
  | nil =>
    simp only [List.nil_append, givesUpAt?] at h
    split at h
    · cases h
    · exact absurd (Option.some.inj h).symm htoken
  | cons word words ih =>
    rw [List.mem_cons, not_or] at hwords
    obtain ⟨hword, hrest⟩ := hwords
    have hsame := hcommand.feed word state world (Ne.symm hword)
    rw [List.cons_append] at h ⊢
    unfold givesUpAt? at h
    unfold feedAll
    rcases hfeed : command.feed word state world with ⟨_ | _, next, world'⟩
    · rw [hfeed] at hsame
      exact hsame
    · rw [hfeed] at h hsame
      subst hsame
      exact ih hrest next h

variable (reader : Reader ω α) (memory : μ) (act : α → Act (μ × ω) Unit)

theorem actsAtEnd_ofReader : (ofReader reader memory act).ActsAtEnd where
  reset _ _ := rfl
  feed token state world htoken := by
    cases token with
    | endOfLine => exact absurd rfl htoken
    | word _ | quoted _ | stray _ => simp only [ofReader]; split <;> rfl

variable {reader memory act}

theorem feed_ofReader_of_ne {token : Token} (htoken : token ≠ .endOfLine)
    (state : Remembered reader.State μ) (world : ω) :
    (ofReader reader memory act).feed token state world =
      match reader.read world state.arguments token with
      | .error error => (.error error, state, world)
      | .ok arguments => (.ok (), { state with arguments }, world) := by
  cases token with
  | endOfLine => exact absurd rfl htoken
  | word _ | quoted _ | stray _ => rfl

/-- What a command made of a reader does when it has read the arguments of a line, or failed to. -/
def concluded (act : α → Act (μ × ω) Unit) {arguments : Type} (state : Remembered arguments μ)
    (world : ω) : Except CommandError α → Except CommandError Unit × Remembered arguments μ × ω
  | .error error => (.error error, state, world)
  | .ok value =>
    let outcome := (act value).run.run (state.memory, world)
    (outcome.1, { state with memory := outcome.2.1 }, outcome.2.2)

theorem feed_ofReader_endOfLine (state : Remembered reader.State μ) (world : ω) :
    (ofReader reader memory act).feed .endOfLine state world =
      concluded act state world (reader.result state.arguments) := by
  simp only [ofReader]
  cases reader.result state.arguments with
  | error error => rfl
  | ok value => rfl

/-- A command made of a reader reads the words, and at the end of the line concludes and acts. -/
theorem feedAll_ofReader {words : List Token} (hwords : Token.endOfLine ∉ words)
    (state : Remembered reader.State μ) (world : ω) :
    ∃ arguments, (ofReader reader memory act).feedAll (words ++ [.endOfLine]) state world =
      concluded act ⟨arguments, state.memory⟩ world
        (words.foldlM (reader.read world) state.arguments >>= reader.result) := by
  induction words generalizing state with
  | nil =>
    refine ⟨state.arguments, (feedAll_singleton ..).trans ?_⟩
    rw [feed_ofReader_endOfLine, List.foldlM_nil, pure_bind]
  | cons word words ih =>
    rw [List.mem_cons, not_or] at hwords
    obtain ⟨hword, hrest⟩ := hwords
    rw [List.foldlM_cons]
    cases hread : reader.read world state.arguments word with
    | error error =>
      refine ⟨state.arguments, (feedAll_cons ..).trans ?_⟩
      rw [feed_ofReader_of_ne (Ne.symm hword), hread]
      rfl
    | ok arguments =>
      obtain ⟨last, h⟩ := ih hrest { state with arguments }
      refine ⟨last, (feedAll_cons ..).trans ?_⟩
      rw [feed_ofReader_of_ne (Ne.symm hword), hread]
      exact h

/-- A line is read, and then carried out unless its words were refused. -/
theorem runLine_ofReader {words : List Token} (hwords : Token.endOfLine ∉ words)
    (state : Remembered reader.State μ) (world : ω) :
    ∃ arguments, (ofReader reader memory act).runLine (words ++ [.endOfLine]) state world =
      concluded act ⟨arguments, state.memory⟩ world (reader.readLine world words) :=
  feedAll_ofReader hwords { state with arguments := reader.start } world

/-- A simple command refuses the words of a line and changes nothing, or acts on what it read. -/
theorem runLine_simple_cases {reader : Reader ω α} {act : α → Act ω Unit} {words : List Token}
    (hwords : Token.endOfLine ∉ words) (state : (simple reader act).State) (world : ω) :
    (∃ error, reader.readLine world words = .error error ∧
      ((simple reader act).runLine (words ++ [.endOfLine]) state world).1 = .error error ∧
      ((simple reader act).runLine (words ++ [.endOfLine]) state world).2.2 = world) ∨
    ∃ value, reader.readLine world words = .ok value ∧
      ((simple reader act).runLine (words ++ [.endOfLine]) state world).1 =
        ((act value).run.run world).1 ∧
      ((simple reader act).runLine (words ++ [.endOfLine]) state world).2.2 =
        ((act value).run.run world).2 := by
  obtain ⟨arguments, hrun⟩ := @runLine_ofReader _ _ _ reader ()
    (fun value => besideMemory (act value)) _ hwords state world
  cases hread : reader.readLine world words with
  | ok value =>
    rw [hread] at hrun
    exact .inr ⟨value, rfl, congrArg Prod.fst hrun, congrArg (·.2.2) hrun⟩
  | error error =>
    rw [hread] at hrun
    exact .inl ⟨error, rfl, congrArg Prod.fst hrun, congrArg (·.2.2) hrun⟩

end Command

end Jukebox
