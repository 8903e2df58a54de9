import Jukebox.Proofs.FailedLine
import Jukebox.Proofs.ListBounds
import Jukebox.Proofs.QueueView
import Jukebox.Proofs.Stock

/-
# Command lines and the lists of the server

No command but two can reach the copies of the queue and the library: each of the others is carried out
in a way that spares them, whatever it does to the lists of the user. A cut that succeeds takes the rows
it is for out of the queue, if that is on screen, and a sort that succeeds puts the library in another
order, if that is on screen. So what the lists of the server hold after a line is known from the line,
from what was on screen, and from whether the line succeeded.
-/

namespace Jukebox

variable {σ ω μ α β : Type}

namespace Act

/-- The action leaves the lists of the server alone. -/
def Spares (view : ω → Session σ) (act : Act ω α) (world : ω) : Prop :=
  (view world).browser.Spares (view (act.run.run world).2).browser

variable {view : ω → Session σ} {world : ω}

theorem spares_of_browser_eq {act : Act ω α}
    (h : (view (act.run.run world).2).browser = (view world).browser) : Spares view act world := by
  unfold Spares
  rw [h]
  exact Browser.spares_refl _

theorem spares_throw (error : CommandError) : Spares view (throw error : Act ω α) world :=
  spares_of_browser_eq rfl

theorem spares_modify {f : ω → ω} (h : (view world).browser.Spares (view (f world)).browser) :
    Spares view (modify f : Act ω PUnit) world := h

theorem Spares.bind {first : Act ω α} {second : α → Act ω β} (hfirst : Spares view first world)
    (hsecond : ∀ a next, Spares view (second a) next) : Spares view (first >>= second) world := by
  unfold Spares at hfirst ⊢
  rcases hrun : first.run.run world with ⟨error | a, next⟩ <;> rw [hrun] at hfirst
  · rw [run_run_bind_of_error hrun]
    exact hfirst
  · rw [run_run_bind_of_ok hrun]
    exact hfirst.trans (hsecond a next)

/-- To look at the state is to know it. -/
theorem spares_get_bind {second : ω → Act ω β} (h : Spares view (second world) world) :
    Spares view (get >>= second) world := by
  unfold Spares
  rw [run_run_get_bind]
  exact h

/-- What stands behind a complaint is not reached. -/
theorem spares_throw_bind (error : CommandError) (second : α → Act ω β) :
    Spares view (throw error >>= second) world := by
  unfold Spares
  rw [run_run_bind_of_error (run_run_throw world error)]
  exact Browser.spares_refl _

theorem spares_unless {condition : Prop} [Decidable condition] {error : CommandError}
    {second : α → Act ω β} {act : Act ω β} (h : Spares view act world) :
    Spares view (if condition then throw error >>= second else act) world := by
  split
  · exact spares_throw_bind error second
  · exact h

/-- A part whose result is known already may be left out. -/
theorem spares_ofExcept_bind {result : Except CommandError α} {second : α → Act ω β}
    (h : ∀ a, result = .ok a → Spares view (second a) world) :
    Spares view (MonadExcept.ofExcept result >>= second) world := by
  cases result with
  | error error => exact spares_throw error
  | ok a => exact h a rfl

theorem spares_request (action : String) (exchange : Exchange σ α) (session : Session σ) :
    Spares id (Session.request action exchange) session := spares_of_browser_eq rfl

theorem spares_inform (text : String) (session : Session σ) :
    Spares id (Session.inform text) session := spares_of_browser_eq rfl

theorem Spares.besideMemory {act : Act (Session σ) α} {memory : μ} {session : Session σ}
    (h : Spares id act session) :
    Spares Prod.snd (Command.besideMemory (μ := μ) act) (memory, session) := h

end Act

namespace Command

open Act

/-- Whatever else is on a line, the command leaves the lists of the server alone. -/
def Spares (command : Command (Session σ)) (session : Session σ) : Prop :=
  ∀ words, Token.endOfLine ∉ words → ∀ state,
    session.browser.Spares
      (command.runLine (words ++ [.endOfLine]) state session).2.2.browser

/-- It is enough that the action spares them whatever was read. -/
theorem spares_ofReader {reader : Reader (Session σ) α} {memory : μ}
    {act : α → Act (μ × Session σ) Unit} {session : Session σ}
    (h : ∀ value memory, Act.Spares Prod.snd (act value) (memory, session)) :
    (ofReader reader memory act).Spares session := by
  intro words hwords state
  obtain ⟨arguments, hrun⟩ := runLine_ofReader hwords state session
  rw [hrun]
  cases reader.readLine session words with
  | error error => exact Browser.spares_refl _
  | ok value => exact h value state.memory

theorem spares_simple {reader : Reader (Session σ) α} {act : α → Act (Session σ) Unit}
    {session : Session σ} (h : ∀ value, Act.Spares id (act value) session) :
    (simple reader act).Spares session :=
  spares_ofReader fun value _ => (h value).besideMemory

/-! ### Commands that configure -/

theorem spares_assign (session : Session σ) : assign.Spares session :=
  spares_simple fun _ => spares_of_browser_eq rfl

theorem spares_restyle (session : Session σ) : restyle.Spares session :=
  spares_simple fun _ => spares_of_browser_eq rfl

theorem spares_bindKeys (session : Session σ) : bindKeys.Spares session :=
  spares_simple fun _ => spares_of_browser_eq rfl

theorem spares_unbindKeys (session : Session σ) : unbindKeys.Spares session :=
  spares_simple fun _ => spares_get_bind <| spares_unless <| spares_of_browser_eq rfl

/-! ### Commands that play -/

section Served

variable [Service σ]

theorem spares_playSongs (songs : List Song) (session : Session σ) :
    Act.Spares id (playSongs songs) session := by
  refine spares_get_bind ?_
  split
  · split
    · exact spares_request _ _ session
    · exact spares_throw _
  · split
    · exact spares_request _ _ session
    · exact spares_throw _

theorem spares_play (session : Session σ) : play.Spares session := by
  apply spares_simple
  intro songs
  split
  · exact spares_request _ _ session
  · exact spares_playSongs songs session

omit [Service σ] in
theorem spares_transport (action : String) (exchange : Exchange σ Unit) (session : Session σ) :
    (transport action exchange).Spares session :=
  spares_simple fun _ => spares_request action exchange session

theorem spares_seek (session : Session σ) : seek.Spares session :=
  spares_simple fun _ => spares_request _ _ session

theorem spares_changeVolume (change : VolumeChange) (memory : Option Nat) (session : Session σ) :
    Act.Spares Prod.snd (changeVolume change) (memory, session) := by
  unfold changeVolume
  refine (spares_request _ _ session).besideMemory.bind ?_
  rintro status ⟨unmuted, seen⟩
  dsimp only
  split
  · exact spares_throw _
  · refine spares_get_bind (spares_ofExcept_bind fun _ _ => ?_)
    refine (spares_request _ _ seen).besideMemory.bind fun _ next => ?_
    split
    · exact spares_of_browser_eq rfl
    · exact spares_of_browser_eq rfl

theorem spares_volume (session : Session σ) : volume.Spares session :=
  spares_ofReader fun change memory => spares_changeVolume change memory session

end Served

/-! ### Commands that move about -/

theorem spares_cursor (session : Session σ) : cursor.Spares session := by
  refine spares_simple fun motion => spares_get_bind ?_
  split
  · next list happly =>
    obtain ⟨row, rfl⟩ := Motion.exists_cursor happly
    exact spares_modify (Browser.spares_modifyShown_of_same rfl rfl)
  · exact spares_throw _

theorem spares_select (session : Session σ) : select.Spares session := by
  refine spares_simple fun selecting => spares_modify ?_
  obtain ⟨hsongs, hkind⟩ := selecting.apply_same session.browser.shown
  exact Browser.spares_modifyShown_of_same hkind hsongs

/-- No way of going to another list changes what is in the lists of the server. -/
theorem ListTarget.spares {target : ListTarget} {b b' : Browser}
    (h : target.apply b = .ok b') : b.Spares b' := by
  cases target with
  | next | previous =>
    cases h
    exact b.spares_cycle _
  | number n =>
    simp only [apply] at h
    split at h
    · next selected hselect =>
      cases h
      split at hselect
      · exact Browser.spares_select? hselect
      · cases hselect
    · cases h
  | duplicate =>
    cases h
    exact b.spares_duplicate
  | remove =>
    simp only [apply] at h
    split at h
    · next closed hremove =>
      cases h
      exact Browser.spares_remove? hremove
    · cases h

theorem spares_list (session : Session σ) : list.Spares session :=
  spares_simple fun _ => spares_get_bind <| spares_ofExcept_bind fun _ happly =>
    spares_modify (ListTarget.spares happly)

theorem spares_inputMode (session : Session σ) : inputMode.Spares session :=
  spares_simple fun _ => spares_of_browser_eq rfl

theorem spares_redraw (session : Session σ) : redraw.Spares session :=
  spares_simple fun _ => spares_of_browser_eq rfl

theorem spares_quit (session : Session σ) : quit.Spares session :=
  spares_simple fun _ => spares_of_browser_eq rfl

/-! ### Commands that arrange songs -/

/-- What a sort does once the tags are known. -/
def sortShown (session : Session σ) (tags : List String) : Act (Session σ) Unit := do
  if session.browser.isQueue then throw (.failed "Cannot sort the queue")
  modify (·.modifyShown (·.sortByTags tags))

theorem sort_eq : (sort : Command (Session σ)) = simple .tags (fun named => do
    let session ← get
    if named.isEmpty then usualOrder session >>= sortShown session
    else sortShown session named) := rfl

theorem run_run_sortShown (session : Session σ) (tags : List String) :
    (sortShown session tags).run.run session =
      if session.browser.isQueue then (.error (.failed "Cannot sort the queue"), session)
      else (.ok (), session.modifyShown (·.sortByTags tags)) := by
  unfold sortShown
  split
  · exact run_run_bind_of_error (run_run_throw session _)
  · rfl

/-- Anything but the library may be sorted; the queue refuses it. -/
theorem spares_sort {session : Session σ} (hkind : session.browser.shown.kind ≠ .library) :
    sort.Spares session := by
  have hsort (tags : List String) : Act.Spares id (sortShown session tags) session := by
    unfold Act.Spares
    rw [run_run_sortShown]
    by_cases hqueue : session.browser.isQueue
    · rw [if_pos hqueue]
      exact Browser.spares_refl _
    · rw [if_neg hqueue]
      have hderived : session.browser.shown.IsDerived :=
        Browser.isDerived_of_kind (by simpa [Browser.isQueue] using hqueue) hkind
      exact Browser.spares_modifyShown_of_isDerived hderived hderived
  rw [sort_eq]
  refine spares_simple fun named => spares_get_bind ?_
  split
  · exact spares_ofExcept_bind fun tags _ => hsort tags
  · exact hsort named

theorem spares_isolate (session : Session σ) : isolate.Spares session := by
  refine spares_simple fun tags => spares_get_bind <| spares_ofExcept_bind fun order _ => ?_
  split
  · exact spares_throw _
  · exact spares_unless (spares_modify (Browser.spares_push (.inr rfl)))

theorem spares_print (session : Session σ) : print.Spares session := by
  refine spares_simple fun tags => spares_get_bind ?_
  split
  · exact spares_throw _
  · exact spares_inform _ session

/-! ### Commands that move songs -/

theorem spares_takeOut (rows : List Nat) {session : Session σ}
    (hshown : session.browser.shown.IsDerived) : Act.Spares id (takeOut rows) session := by
  obtain ⟨next, hrun, -, hbrowser⟩ := run_run_takeOut rows session
  have hremoved : (session.browser.shown.removeRows rows).2.IsDerived := by
    unfold Songlist.IsDerived
    rw [Songlist.kind_removeRows]
    exact hshown
  have hchanged := Browser.spares_modifyShown_of_isDerived (b := session.browser)
    (f := fun _ => (session.browser.shown.removeRows rows).2) hshown hremoved
  unfold Act.Spares
  rw [hrun]
  exact hchanged.trans (hbrowser ▸ Browser.spares_of_same rfl rfl rfl)

variable [Service σ]

theorem spares_add (session : Session σ) : add.Spares session :=
  spares_simple fun _ => spares_get_bind <| spares_unless <|
    (spares_request _ _ session).bind fun _ next => spares_inform _ next

/-- Anything but the queue may be cut from; the library refuses it. -/
theorem spares_cut {session : Session σ} (hkind : session.browser.shown.kind ≠ .queue) :
    cut.Spares session := by
  refine spares_simple fun _ => spares_get_bind <| spares_unless ?_
  split
  · exact spares_throw_bind _ _
  · next hqueue => exact absurd hqueue hkind
  · next hcustom => exact spares_takeOut _ (.inr hcustom)
  · next hsearch => exact spares_takeOut _ (.inl hsearch)

omit [Service σ] in
theorem spares_yank (session : Session σ) : yank.Spares session := by
  refine spares_simple fun _ => spares_get_bind <| spares_unless ?_
  refine Spares.bind (spares_modify ?_) fun _ next => spares_inform _ next
  have hcopied : session.browser.Spares
      { session.browser with clipboard := session.browser.shown.selectedSongs } :=
    Browser.spares_of_same rfl rfl rfl
  exact hcopied.trans (Browser.spares_modifyShown_of_same rfl rfl)

theorem spares_paste (session : Session σ) : paste.Spares session := by
  refine spares_simple fun after => spares_get_bind <| spares_unless ?_
  have hinsert (position : Nat) (songs : List Song)
      (hshown : session.browser.shown.IsDerived) : Act.Spares id
      (do modify fun session : Session σ => session.modifyShown (·.insert position songs)
          Session.inform (songsMessage "pasted" songs.length)) session := by
    refine Spares.bind (spares_modify ?_) fun _ next => spares_inform _ next
    have hinserted : (session.browser.shown.insert position songs).IsDerived := by
      unfold Songlist.IsDerived
      rw [Browser.kind_insert]
      exact hshown
    exact Browser.spares_modifyShown_of_isDerived hshown hinserted
  dsimp only
  split
  · exact spares_throw_bind _ _
  · exact (spares_request _ _ session).bind fun _ next => spares_inform _ next
  · next hcustom => exact hinsert _ _ (.inr hcustom)
  · next hsearch => exact hinsert _ _ (.inl hsearch)

/-- All of them, but for the two commands each on one list. -/
theorem spares_of_mem_builtin {name : String} {command : Command (Session σ)} {session : Session σ}
    (h : (name, command) ∈ builtin) (hcut : name = "cut" → session.browser.shown.kind ≠ .queue)
    (hsort : name = "sort" → session.browser.shown.kind ≠ .library) : command.Spares session := by
  simp only [builtin, List.mem_cons, Prod.mk.injEq, List.not_mem_nil, or_false] at h
  rcases h with ⟨-, rfl⟩ | ⟨-, rfl⟩ | ⟨-, rfl⟩ | ⟨-, rfl⟩ | ⟨-, rfl⟩ | ⟨-, rfl⟩ | ⟨-, rfl⟩ | ⟨-, rfl⟩ |
    ⟨-, rfl⟩ | ⟨-, rfl⟩ | ⟨-, rfl⟩ | ⟨-, rfl⟩ | ⟨-, rfl⟩ | ⟨-, rfl⟩ | ⟨rfl, rfl⟩ | ⟨-, rfl⟩ | ⟨-, rfl⟩ |
    ⟨rfl, rfl⟩ | ⟨-, rfl⟩ | ⟨-, rfl⟩ | ⟨-, rfl⟩ | ⟨-, rfl⟩ | ⟨-, rfl⟩ | ⟨-, rfl⟩
  · exact spares_assign session
  · exact spares_restyle session
  · exact spares_bindKeys session
  · exact spares_unbindKeys session
  · exact spares_play session
  · exact spares_transport _ _ session
  · exact spares_transport _ _ session
  · exact spares_transport _ _ session
  · exact spares_transport _ _ session
  · exact spares_volume session
  · exact spares_seek session
  · exact spares_cursor session
  · exact spares_inputMode session
  · exact spares_list session
  · exact spares_sort (hsort rfl)
  · exact spares_add session
  · exact spares_select session
  · exact spares_cut (hcut rfl)
  · exact spares_yank session
  · exact spares_paste session
  · exact spares_isolate session
  · exact spares_print session
  · exact spares_redraw session
  · exact spares_quit session

end Command

/-! ### What the lists of the server hold after a line -/

/-- The line names the command, finds a list of the kind on screen and is carried out. -/
def Dispatcher.Succeeds (dispatcher : Dispatcher (Session σ)) (name : String) (kind : ListKind)
    (line : String) (session : Session σ) : Prop :=
  (Token.ofLine line).head? = some (.word name) ∧ session.browser.shown.kind = kind ∧
    (dispatcher.dispatch line session).1 = .ok ()

instance (dispatcher : Dispatcher (Session σ)) (name : String) (kind : ListKind) (line : String)
    (session : Session σ) : Decidable (dispatcher.Succeeds name kind line session) :=
  have : Decidable ((dispatcher.dispatch line session).1 = .ok ()) :=
    decidable_of_iff _ failure?_eq_none_iff
  inferInstanceAs (Decidable (_ ∧ _ ∧ _))

/-- What the lists of the server should hold after a line: a cut takes its rows out of the queue, a sort
puts the library in another order, and nothing else counts. -/
def Stock.afterLine (stock : Stock) (dispatcher : Dispatcher (Session σ)) (line : String)
    (session : Session σ) : Stock :=
  if dispatcher.Succeeds "cut" .queue line session then
    { stock with
      queue := Songlist.keepRows (!session.browser.shown.targetRows.contains ·) 0 stock.queue }
  else if dispatcher.Succeeds "sort" .library line session then { stock with sorted := true }
  else stock

namespace Stock

variable {stock : Stock} {dispatcher : Dispatcher (Session σ)} {line : String} {session : Session σ}

theorem library_afterLine :
    (stock.afterLine dispatcher line session).library = stock.library := by
  unfold afterLine
  split
  · rfl
  · split <;> rfl

theorem queue_afterLine_of_not (h : ¬ dispatcher.Succeeds "cut" .queue line session) :
    (stock.afterLine dispatcher line session).queue = stock.queue := by
  rw [afterLine, if_neg h]
  split <;> rfl

theorem sorted_afterLine_of_not (h : ¬ dispatcher.Succeeds "sort" .library line session) :
    (stock.afterLine dispatcher line session).sorted = stock.sorted := by
  rw [afterLine, if_neg h]
  split <;> rfl

/-- From an empty queue nothing can be cut. -/
theorem queue_afterLine_eq_nil (h : stock.queue = []) :
    (stock.afterLine dispatcher line session).queue = [] := by
  unfold afterLine
  split
  · rw [h]
    rfl
  · split <;> exact h

end Stock

section Lines

variable [Service σ] {dispatcher : Dispatcher (Session σ)} {line : String} {session : Session σ}
  {stock : Stock}

/-- A cut that succeeds on the queue takes its rows out of the list. -/
theorem Dispatcher.Succeeds.browser_cut (hoffers : dispatcher.Offers Command.builtin)
    (h : dispatcher.Succeeds "cut" .queue line session) :
    ∃ clipboard, (dispatcher.dispatch line session).2.2.browser =
      { session.browser.modifyShown fun _ =>
        (session.browser.shown.removeRows session.browser.shown.targetRows).2 with clipboard } := by
  obtain ⟨hword, hkind, hok⟩ := h
  obtain ⟨tokens, hline⟩ := List.head?_eq_some_iff.1 hword
  have hmem : ("cut", Command.cut) ∈ (Command.builtin : List (String × Command (Session σ))) := by
    simp [Command.builtin]
  obtain ⟨_, -, ⟨error, -, herror, -⟩ | ⟨⟨⟩, -, hresult, hafter⟩⟩ :=
    hoffers.dispatch_simple Dispatcher.nodup_names_builtin hmem hline session
  · cases hok.symm.trans herror
  · rw [Act.run_run_get_bind] at hresult hafter
    simp only [hkind] at hresult hafter
    by_cases hrows : session.browser.shown.targetRows.isEmpty = true
    · rw [if_pos hrows, run_run_bind_of_error (run_run_throw session _)] at hresult
      cases hok.symm.trans hresult
    · rw [if_neg hrows] at hresult hafter
      rcases hrun : (Session.request "cut" (deleteAll session.browser.shown.selectedSongs)).run.run
        session with ⟨error | ⟨⟩, next⟩
      · rw [run_run_bind_of_error hrun] at hresult
        cases hok.symm.trans hresult
      · have hasked : session.browser = next.browser := congrArg (·.2.browser) hrun
        obtain ⟨last, htake, -, hbrowser⟩ :=
          run_run_takeOut session.browser.shown.targetRows next
        rw [run_run_bind_of_ok hrun, htake] at hafter
        rw [hafter, hbrowser, ← hasked]
        exact ⟨_, rfl⟩

/-- A sort that succeeds orders the list on screen by some tags. -/
theorem Dispatcher.Succeeds.browser_sort (hoffers : dispatcher.Offers Command.builtin)
    {kind : ListKind} (h : dispatcher.Succeeds "sort" kind line session) :
    ∃ tags, (dispatcher.dispatch line session).2.2.browser =
      session.browser.modifyShown (·.sortByTags tags) := by
  obtain ⟨hword, hkind, hok⟩ := h
  obtain ⟨tokens, hline⟩ := List.head?_eq_some_iff.1 hword
  have hmem : ("sort", Command.sort) ∈ (Command.builtin : List (String × Command (Session σ))) := by
    simp [Command.builtin]
  rw [Command.sort_eq] at hmem
  obtain ⟨words, -, ⟨error, -, herror, -⟩ | ⟨named, -, hresult, hafter⟩⟩ :=
    hoffers.dispatch_simple Dispatcher.nodup_names_builtin hmem hline session
  · cases hok.symm.trans herror
  · have hdone := mapError_eq_ok_iff.1 (hresult.symm.trans hok)
    rw [Act.run_run_get_bind] at hdone hafter
    have hsort (tags : List String)
        (hsorted : ((Command.sortShown session tags).run.run session).1 = .ok ()) :
        ((Command.sortShown session tags).run.run session).2.browser =
          session.browser.modifyShown (·.sortByTags tags) := by
      rw [Command.run_run_sortShown] at hsorted ⊢
      split at hsorted
      · cases hsorted
      · next hqueue => rw [if_neg hqueue, Session.modifyShown, Session.modifyBrowser]
    rw [hafter]
    by_cases hnamed : named.isEmpty
    · rw [if_pos hnamed, Command.usualOrder] at hdone ⊢
      cases horder : (session.settings.listValue "sort").mapError CommandError.setting with
      | error error =>
        rw [horder] at hdone
        cases hdone
      | ok tags =>
        rw [horder] at hdone
        exact ⟨tags, hsort tags hdone⟩
    · rw [if_neg hnamed] at hdone ⊢
      exact ⟨named, hsort named hdone⟩

/-- After any line the lists of the server hold what they should. -/
theorem Browser.Holds.dispatch (h : session.browser.Holds stock)
    (hoffers : dispatcher.Offers Command.builtin) (line : String) :
    (dispatcher.dispatch line session).2.2.browser.Holds
      (stock.afterLine dispatcher line session) := by
  unfold Stock.afterLine
  split
  · next hcut =>
    obtain ⟨clipboard, hbrowser⟩ := hcut.browser_cut hoffers
    have hqueue := hcut.2.1
    obtain ⟨-, -, hsongs⟩ := h.of_kind_eq_queue hqueue
    have hremoved := h.modifyShown_queue
      (f := fun _ => (session.browser.shown.removeRows session.browser.shown.targetRows).2) hqueue
      (Songlist.kind_removeRows _ _)
    rw [Songlist.songs_removeRows, hsongs] at hremoved
    rw [hbrowser]
    exact Browser.spares_of_same (by rfl) (by rfl) (by rfl) _ hremoved
  · next hcut =>
    split
    · next hsort =>
      obtain ⟨tags, hbrowser⟩ := hsort.browser_sort hoffers
      rw [hbrowser]
      exact h.modifyShown_library hsort.2.1 rfl (Songlist.perm_sortByTags _ tags)
    · next hsort =>
      cases hresult : (dispatcher.dispatch line session).1 with
      | error error =>
        rw [(Dispatcher.spared_of_dispatch_error hoffers hresult).browser]
        exact h
      | ok =>
        have hdispatched := dispatcher.dispatched line session
        have hkinds {name : String} {kind : ListKind}
            (hword : (Token.ofLine line).head? = some (.word name))
            (hnot : ¬ dispatcher.Succeeds name kind line session) :
            session.browser.shown.kind ≠ kind := fun hkind => hnot ⟨hword, hkind, hresult⟩
        generalize dispatcher.dispatch line session = outcome at hdispatched ⊢
        cases hdispatched with
        | blank | notACommand | notFound => exact h
        | @ran entry words _ hline hwords hentry _ =>
          have hword {name : String} (hname : entry.name = name) :
              (Token.ofLine line).head? = some (.word name) := by rw [hline, hname, List.head?_cons]
          have hspares : entry.command.Spares session :=
            Command.spares_of_mem_builtin (hoffers.mem hentry)
              (fun hname => hkinds (hword hname) hcut) fun hname => hkinds (hword hname) hsort
          exact hspares words hwords entry.state stock h

end Lines

end Jukebox
