import Jukebox.Proofs.Scanning
import Jukebox.Proofs.SettingLine
import Jukebox.Proofs.Sparing
import Jukebox.Proofs.TagOrder

/-
# The usual order

A list is sorted by the tags that are named on the line, or else by those of the setting `sort`. Tags
that are named on a line are put in small letters, as songs have them. Those of the setting are used as
they were written, and in capital letters they are not found. So the two ways to sort agree just where
this makes no difference to the list on screen.
-/

namespace Jukebox

namespace Text

/-! ### Lists between commas -/

theorem splitChars_eq_splitOn (mark : Char) (text : List Char) :
    splitChars mark text = text.splitOn mark := by
  induction text with
  | nil => rfl
  | cons c text ih =>
    rw [splitChars, ih, List.splitOn_eq_splitOnP, List.splitOn_eq_splitOnP,
      List.splitOnP_cons_eq_if_modifyHead]
    by_cases hc : c = mark
    · rw [if_pos hc, if_pos (beq_iff_eq.2 hc)]
    · rw [if_neg hc, if_neg (by simpa using hc)]
      cases hparts : text.splitOnP (· == mark) with
      | nil => exact absurd hparts (List.splitOnP_ne_nil _ _)
      | cons part parts => rfl

theorem mem_intercalate {mark : String} {parts : List String} {c : Char}
    (h : c ∈ (mark.intercalate parts).toList) :
    c ∈ mark.toList ∨ ∃ part ∈ parts, c ∈ part.toList := by
  induction parts with
  | nil => simp at h
  | cons part parts ih =>
    cases parts with
    | nil => exact .inr ⟨part, List.mem_cons_self, by simpa using h⟩
    | cons next parts =>
      rw [String.intercalate_cons_cons, String.toList_append, String.toList_append,
        List.mem_append, List.mem_append] at h
      rcases h with (hpart | hmark) | hrest
      · exact .inr ⟨part, List.mem_cons_self, hpart⟩
      · exact .inl hmark
      · exact (ih hrest).imp id fun ⟨other, hother, hc⟩ => ⟨other, List.mem_cons_of_mem _ hother, hc⟩

theorem trim_eq_self {text : String} (h : ∀ c ∈ text.toList, isBlank c = false) :
    trim text = text := by
  have hdrop {l : List Char} (hl : ∀ c ∈ l, isBlank c = false) : l.dropWhile isBlank = l := by
    cases l with
    | nil => rfl
    | cons c l => exact List.dropWhile_cons_of_neg (by simp [hl c List.mem_cons_self])
  rw [trim, dropEnd, dropStart, String.toList_ofList, hdrop h, hdrop (by simpa using h),
    List.reverse_reverse, String.ofList_toList]

end Text

open Text

/-- Words that a comma list can be made of: they have no comma themselves. -/
structure Token.Listable (words : List String) : Prop where
  isWord : ∀ word ∈ words, Token.IsWord word
  no_comma : ∀ word ∈ words, ',' ∉ word.toList

/-- Words with blanks between them are read as they are. -/
theorem Token.ofLine_intercalate_words {words : List String} (h : ∀ word ∈ words, IsWord word) :
    ofLine (String.intercalate " " words) = words.map .word ++ [.endOfLine] := by
  have hsource : (words.map Token.word).map source = words := by
    rw [List.map_map]
    exact List.map_id words
  have hwritten : ∀ token ∈ words.map Token.word, token.Written := by
    simpa using fun word hword => Written.word (h word hword)
  rw [← ofLine_intercalate_source hwritten, hsource]

namespace Token.Listable

variable {words : List String}

/-- Words with commas between them are taken apart at these. -/
theorem commaList_intercalate (h : Listable words) (hwords : words ≠ []) :
    Settings.commaList (String.intercalate "," words) = words := by
  have hsplit : splitChars ',' (String.intercalate "," words).toList =
      words.map String.toList := by
    rw [splitChars_eq_splitOn, String.toList_intercalate]
    exact List.splitOn_intercalate ',' (by simpa using h.no_comma) (by simpa using hwords)
  have hpart : ∀ word ∈ words, trim (String.ofList word.toList) = id word := by
    intro word hword
    rw [String.ofList_toList]
    exact trim_eq_self fun c hc => (isWordChar_iff.1 ((h.isWord word hword).wordChar c hc)).1
  have hparts : words.map ((fun part => trim (String.ofList part)) ∘ String.toList) = words :=
    (List.map_congr_left hpart).trans (List.map_id words)
  have hkept : ∀ word ∈ words, decide (word ≠ "") = true := by
    intro word hword
    refine decide_eq_true ?_
    rintro rfl
    exact (h.isWord "" hword).ne_nil rfl
  rw [Settings.commaList, hsplit, List.map_map, hparts, List.filter_eq_self.2 hkept]

/-- With commas between them and a word before them they are one word. -/
theorem isWord_intercalate (h : Listable words) {before : String} (hbefore : IsWord before) :
    IsWord (before ++ String.intercalate "," words) where
  ne_nil := by
    rw [String.toList_append]
    exact List.append_ne_nil_of_left_ne_nil hbefore.ne_nil _
  wordChar c hc := by
    rw [String.toList_append, List.mem_append] at hc
    rcases hc with hc | hc
    · exact hbefore.wordChar c hc
    · rcases mem_intercalate hc with hcomma | ⟨word, hword, hc⟩
      · rw [List.mem_singleton.1 hcomma]
        decide
      · exact (h.isWord word hword).wordChar c hc

end Token.Listable

/-- A list other than the queue is on screen only if it is there, so what is made of it tells the ways
to change it apart. -/
theorem Browser.modifyShown_eq_iff {b : Browser} (h : b.isQueue = false)
    (f g : Songlist → Songlist) : b.modifyShown f = b.modifyShown g ↔ f b.shown = g b.shown := by
  cases hsearch : b.search with
  | some search => simp [modifyShown, shown, hsearch]
  | none =>
    have hactive : b.active < b.count := by
      by_contra hnot
      have hnone : b.lists[b.active]? = none := List.getElem?_eq_none (Nat.le_of_not_lt hnot)
      simp [isQueue, shown, hsearch, activeList, hnone] at h
    refine ⟨fun hsame => ?_, fun hsame => ?_⟩
    · rw [← shown_modifyShown f hactive, hsame, shown_modifyShown g hactive]
    · have hshown : b.lists[b.active]? = some b.shown := by
        have hsome : b.lists[b.active]? = some b.lists[b.active] := List.getElem?_eq_getElem hactive
        simp [shown, hsearch, activeList, hsome]
      simp only [modifyShown, hsearch, List.modify_eq_set_getElem?, hshown, Option.map_some,
        Option.map_eq_map, hsame]

namespace Command

variable {σ : Type} [Service σ] {dispatcher : Dispatcher (Session σ)} {session : Session σ}
  {words tags : List String} {line : String}

theorem foldlM_texts {ω : Type} (world : ω) (expected : String) (read words : List String) :
    (words.map Token.word).foldlM ((Reader.texts expected).read world) read =
      .ok (read ++ words) := by
  induction words generalizing read with
  | nil => exact congrArg Except.ok (List.append_nil read).symm
  | cons word words ih =>
    refine (ih (read ++ [word])).trans ?_
    rw [List.append_assoc, List.singleton_append]

/-- Words are read as names of tags, in small letters. -/
theorem readLine_tags {ω : Type} (world : ω) (words : List String) :
    Reader.tags.readLine world (words.map Token.word) = .ok (words.map lowercase) := by
  have hread := foldlM_texts world "a tag name" [] words
  unfold Reader.readLine
  change (words.map Token.word).foldlM ((Reader.texts "a tag name").read world) [] >>= _ = _
  rw [hread]
  rfl

/-- A sort orders the list on screen by the tags on the line, or else by those of the setting. -/
theorem dispatch_sortLine (hoffers : dispatcher.Offers Command.builtin)
    (hline : Token.ofLine line = .word "sort" :: (words.map .word ++ [.endOfLine]))
    (htags : (if words = [] then session.settings.listValue "sort"
      else .ok (words.map lowercase)) = .ok tags)
    (hqueue : session.browser.isQueue = false) :
    (dispatcher.dispatch line session).1 = .ok () ∧
      (dispatcher.dispatch line session).2.2 = session.modifyShown (·.sortByTags tags) := by
  have hmem : ("sort", sort) ∈ (Command.builtin : List (String × Command (Session σ))) := by
    simp [Command.builtin]
  rw [sort_eq] at hmem
  obtain ⟨tokens, htokens, hcases⟩ :=
    hoffers.dispatch_simple Dispatcher.nodup_names_builtin hmem hline session
  rw [← List.append_cancel_right htokens, readLine_tags] at hcases
  obtain ⟨_, hnot, -⟩ | ⟨_, hread, hresult, hafter⟩ := hcases
  · cases hnot
  · cases hread
    rw [hresult, hafter, Act.run_run_get_bind]
    have hsorted : (sortShown session tags).run.run session =
        (.ok (), session.modifyShown (·.sortByTags tags)) := by
      rw [run_run_sortShown, if_neg (by simp [hqueue])]
    by_cases hwords : words = []
    · rw [if_pos hwords] at htags
      have husual : (usualOrder session).run.run session = (.ok tags, session) := by
        rw [usualOrder, htags]
        rfl
      rw [if_pos (by simp [hwords]), run_run_bind_of_ok husual, hsorted]
      exact ⟨rfl, rfl⟩
    · rw [if_neg hwords] at htags
      cases htags
      rw [if_neg (by simpa using hwords), hsorted]
      exact ⟨rfl, rfl⟩

/-- A text is given to the setting `sort`. -/
theorem dispatch_setSort (hoffers : dispatcher.Offers Command.builtin)
    (hsort : session.settings.kind "sort" = .ok .text) {text : String}
    (hline : SetLine [.bare ("sort=" ++ text)] line) :
    ∃ settings : Settings, settings.listValue "sort" = .ok (Settings.commaList text) ∧
      (dispatcher.dispatch line session).1 = .ok () ∧
      (dispatcher.dispatch line session).2.2 = { session with settings } := by
  have harranged : Arranged [.bare ("sort=" ++ text)] := ⟨nofun, nofun⟩
  have hsplit : splitOnce ("sort=" ++ text) "=" = some ("sort", text) := by
    rw [splitOnce, String.toList_append]
    exact congrArg (fun after => some ("sort", after)) String.ofList_toList
  have hentry : (Assignment.bare ("sort=" ++ text)).entry (onLine session.settings [])
      session.settings = .ok ("sort", .text text) := by
    simp only [Assignment.entry, Assignment.meaning, hsplit, Change.value, hsort]
    rfl
  have hcollect : collect (onLine session.settings) session.settings
      [.bare ("sort=" ++ text)] [] = .ok [("sort", .text text)] := by
    rw [collect, hentry]
    rfl
  have hfit : AllFit session.settings [("sort", .text text)] := by
    intro entry hentry
    rw [List.mem_singleton.1 hentry]
    exact hsort
  obtain ⟨old, hold, -⟩ := Settings.kind_eq_ok_iff.1 hsort
  have hfind : (settle [("sort", .text text)] session.settings).find? "sort" =
      some (.text text) := by
    rw [find?_settle hfit, hold, lastValue?_cons, if_pos rfl]
    rfl
  obtain ⟨error, hfailed, -⟩ | ⟨all, hall, hresult, hafter⟩ :=
    dispatch_setLine hoffers harranged (List.cons_ne_nil _ _) hline session
  · cases hcollect.symm.trans hfailed
  · cases hcollect.symm.trans hall
    refine ⟨_, ?_, hresult, hafter⟩
    rw [Settings.listValue, Settings.textValue, Settings.get, hfind]
    rfl

theorem isWord_sort : Token.IsWord "sort" := by decide

/-- Tags that are named on the line are put in small letters. -/
theorem dispatch_namedSort (hoffers : dispatcher.Offers Command.builtin)
    (hqueue : session.browser.isQueue = false) (hwords : words ≠ [])
    (hlistable : Token.Listable words) :
    let named := dispatcher.dispatch (String.intercalate " " ("sort" :: words)) session
    named.1 = .ok () ∧ named.2.2 = session.modifyShown (·.sortByTags (words.map lowercase)) := by
  have hline : Token.ofLine (String.intercalate " " ("sort" :: words)) =
      .word "sort" :: (words.map .word ++ [.endOfLine]) :=
    Token.ofLine_intercalate_words (List.forall_mem_cons.2 ⟨isWord_sort, hlistable.isWord⟩)
  exact dispatch_sortLine hoffers hline (if_neg hwords) hqueue

/-- Tags that are given to the setting are used as they are written. -/
theorem dispatch_usualSort (hoffers : dispatcher.Offers Command.builtin)
    (hsort : session.settings.kind "sort" = .ok .text) (hqueue : session.browser.isQueue = false)
    (hwords : words ≠ []) (hlistable : Token.Listable words) :
    let given := dispatcher.dispatch ("set sort=" ++ String.intercalate "," words) session
    let usual := given.2.1.dispatch "sort" given.2.2
    given.1 = .ok () ∧ usual.1 = .ok () ∧
      usual.2.2.browser = session.browser.modifyShown (·.sortByTags words) := by
  intro given usual
  have hvalued : Token.IsWord ("sort=" ++ String.intercalate "," words) :=
    hlistable.isWord_intercalate (by decide)
  have hgivenLine : SetLine [.bare ("sort=" ++ String.intercalate "," words)]
      ("set sort=" ++ String.intercalate "," words) := by
    have hline : "set sort=" ++ String.intercalate "," words =
        String.intercalate " " ["set", "sort=" ++ String.intercalate "," words] := by
      rw [String.intercalate_cons_cons, String.intercalate_singleton, ← String.append_assoc]
      rfl
    rw [SetLine, hline]
    exact Token.ofLine_intercalate_words (List.forall_mem_cons.2
      ⟨by decide, List.forall_mem_singleton.2 hvalued⟩)
  have husualLine : Token.ofLine "sort" =
      .word "sort" :: (([] : List String).map .word ++ [.endOfLine]) := Token.scan_word isWord_sort
  obtain ⟨settings, hlist, hgiven, hgivenAfter⟩ := dispatch_setSort hoffers hsort hgivenLine
  rw [hlistable.commaList_intercalate hwords] at hlist
  have hoffers' : given.2.1.Offers Command.builtin := hoffers.dispatch _ session
  change given.2.2 = _ at hgivenAfter
  have hqueue' : given.2.2.browser.isQueue = false := by
    rw [hgivenAfter]
    exact hqueue
  obtain ⟨husual, husualAfter⟩ := dispatch_sortLine hoffers' husualLine
    (by rw [if_pos rfl, hgivenAfter]; exact hlist) hqueue'
  refine ⟨hgiven, husual, ?_⟩
  rw [husualAfter, hgivenAfter]
  rfl

/-- Where a list other than the queue is on screen it is sorted by the tags on the line, in small
letters, or by those of the setting, as they were written. Both ways always succeed. They leave the
same lists just if tags in both spellings put the same pairs of songs on screen the other way round,
and so for tags in small letters. -/
theorem named_sort_eq_usual_sort_iff (hoffers : dispatcher.Offers Command.builtin)
    (hsort : session.settings.kind "sort" = .ok .text) (hqueue : session.browser.isQueue = false)
    (hwords : words ≠ []) (hlistable : Token.Listable words) :
    let named := dispatcher.dispatch (String.intercalate " " ("sort" :: words)) session
    let given := dispatcher.dispatch ("set sort=" ++ String.intercalate "," words) session
    let usual := given.2.1.dispatch "sort" given.2.2
    (named.1 = .ok () ∧ given.1 = .ok () ∧ usual.1 = .ok ()) ∧
    named.2.2.browser = session.browser.modifyShown (·.sortByTags (words.map lowercase)) ∧
    usual.2.2.browser = session.browser.modifyShown (·.sortByTags words) ∧
    (named.2.2.browser = usual.2.2.browser ↔ session.browser.shown.songs.Pairwise fun a b =>
      Song.Before (words.map lowercase) b a ↔ Song.Before words b a) ∧
    ((∀ word ∈ words, lowercase word = word) → named.2.2.browser = usual.2.2.browser) := by
  intro named given usual
  obtain ⟨hnamed, hnamedAfter⟩ := dispatch_namedSort hoffers hqueue hwords hlistable
  obtain ⟨hgiven, husual, husualBrowser⟩ :=
    dispatch_usualSort hoffers hsort hqueue hwords hlistable
  have hnamedBrowser : named.2.2.browser =
      session.browser.modifyShown (·.sortByTags (words.map lowercase)) :=
    congrArg (·.browser) hnamedAfter
  change usual.2.2.browser = _ at husualBrowser
  refine ⟨⟨hnamed, hgiven, husual⟩, hnamedBrowser, husualBrowser, ?_, fun hsmall => ?_⟩
  · rw [hnamedBrowser, husualBrowser, Browser.modifyShown_eq_iff hqueue,
      Songlist.sortByTags_eq_iff]
  · rw [hnamedBrowser, husualBrowser, List.map_congr_left hsmall, List.map_id']

/-- A session with the library on screen. -/
def libraryOnScreen : Session Rehearsal where
  browser :=
    { lists := [{ name := "Queue", kind := .queue },
        { name := "Library", kind := .library
          songs := [.ofTags [("file", "a.flac"), ("album", "Low"), ("title", "Warszawa")],
            .ofTags [("file", "b.flac"), ("album", "Heroes"), ("title", "Blackout")]] }]
      active := 1 }
  chance := .first

theorem kind_libraryOnScreen : libraryOnScreen.settings.kind "sort" = .ok .text :=
  Settings.kind_eq_ok_iff.2 ⟨.text "", by decide +kernel, rfl⟩

theorem isQueue_libraryOnScreen : libraryOnScreen.browser.isQueue = false := by decide

theorem sorted_by_album_both_ways :
    let named := Dispatcher.standard.dispatch "sort album title" libraryOnScreen
    let given := Dispatcher.standard.dispatch "set sort=album,title" libraryOnScreen
    let usual := given.2.1.dispatch "sort" given.2.2
    libraryOnScreen.settings.kind "sort" = .ok .text ∧
    libraryOnScreen.browser.isQueue = false ∧
    named.1 = .ok () ∧ named.2.2.browser = usual.2.2.browser := by
  intro named given usual
  have hlistable : Token.Listable ["album", "title"] := ⟨by decide, by decide⟩
  have hboth := named_sort_eq_usual_sort_iff Dispatcher.offers_standard kind_libraryOnScreen
    isQueue_libraryOnScreen (List.cons_ne_nil _ _) hlistable
  exact ⟨kind_libraryOnScreen, isQueue_libraryOnScreen, hboth.1.1, hboth.2.2.2.2 (by decide)⟩

/-- In capital letters the album on the line is found, and that of the setting is not. -/
theorem capital_album_is_not_found :
    let named := Dispatcher.standard.dispatch "sort ALBUM" libraryOnScreen
    let given := Dispatcher.standard.dispatch "set sort=ALBUM" libraryOnScreen
    let usual := given.2.1.dispatch "sort" given.2.2
    (named.1 = .ok () ∧ given.1 = .ok () ∧ usual.1 = .ok ()) ∧
    named.2.2.browser.shown.songs.map Song.file? = [some "b.flac", some "a.flac"] ∧
    usual.2.2.browser.shown.songs.map Song.file? = [some "a.flac", some "b.flac"] := by
  intro named given usual
  have hlistable : Token.Listable ["ALBUM"] := ⟨by decide, by decide⟩
  obtain ⟨hnamed, hnamedAfter⟩ := dispatch_namedSort Dispatcher.offers_standard
    isQueue_libraryOnScreen (List.cons_ne_nil _ _) hlistable
  obtain ⟨hgiven, husual, husualBrowser⟩ := dispatch_usualSort Dispatcher.offers_standard
    kind_libraryOnScreen isQueue_libraryOnScreen (List.cons_ne_nil _ _) hlistable
  have hsorted (tags : List String) :
      (libraryOnScreen.browser.modifyShown (·.sortByTags tags)).shown =
        libraryOnScreen.browser.shown.sortByTags tags :=
    Browser.shown_modifyShown _ (by decide)
  have hswapped : Songlist.Sorts ["album"] libraryOnScreen.browser.shown.songs
      libraryOnScreen.browser.shown.songs.reverse :=
    Songlist.sorts_swap (by decide +kernel)
  have hkept : Songlist.Sorts ["ALBUM"] libraryOnScreen.browser.shown.songs
      libraryOnScreen.browser.shown.songs :=
    Songlist.sorts_self (by decide +kernel)
  refine ⟨⟨hnamed, hgiven, husual⟩, ?_, ?_⟩
  · have hshown : named.2.2.browser.shown = libraryOnScreen.browser.shown.sortByTags ["album"] :=
      (congrArg (·.browser.shown) hnamedAfter).trans (hsorted ["album"])
    rw [hshown, hswapped.songs_eq]
    decide +kernel
  · have hshown : usual.2.2.browser.shown = libraryOnScreen.browser.shown.sortByTags ["ALBUM"] :=
      (congrArg Browser.shown husualBrowser).trans (hsorted ["ALBUM"])
    rw [hshown, hkept.songs_eq]
    decide +kernel

end Command

end Jukebox
