import HeapInspector.Proofs.Text.Order
import HeapInspector.Repl.Editing
import Mathlib.Data.List.TakeWhile

/-! Completion and hints. The names that start with a text stand together in an ascending list, from the
place where the text itself stands or would be inserted, so that a search for that place finds the first
of them and nothing stands between it and the others. -/
namespace HeapInspector.Repl

variable {names : List (List Char)} {text line rest : List Char} {place : Nat}

/-- The bytes of each name are before those of the later ones, so that no name is there twice. -/
def InByteOrder (names : List (List Char)) : Prop :=
  names.Pairwise fun first second =>
    Utf8.encode (String.ofList first) < Utf8.encode (String.ofList second)

/-- What a binary search in an ascending list promises of the place that it comes back with: the text
stands there, or it is not in the list and can be inserted there. -/
inductive SearchPlace (names : List (List Char)) (text : List Char) (place : Nat) : Prop where
  | found (hFound : names[place]? = some text)
  | missing (hWithin : place ≤ names.length)
      (hInserted : InByteOrder (names.take place ++ text :: names.drop place))

theorem inByteOrder_iff : InByteOrder names ↔ names.Pairwise (· < ·) := by
  unfold InByteOrder
  simp only [Utf8.encode_lt_encode_iff]

/-- Around a text in an ascending list, smaller names stand before it and no smaller one behind. -/
theorem split_of_pairwise {before after : List (List Char)}
    (h : (before ++ text :: after).Pairwise (· < ·)) :
    (∀ name ∈ before, name < text) ∧ ∀ name ∈ text :: after, ¬ name < text := by
  rw [List.pairwise_append, List.pairwise_cons] at h
  obtain ⟨_, ⟨hAfter, _⟩, hBefore⟩ := h
  refine ⟨fun name hMem => hBefore name hMem text List.mem_cons_self, ?_⟩
  intro name hMem
  rcases List.mem_cons.mp hMem with rfl | hLater
  · exact List.lt_irrefl name
  · exact List.lt_asymm (hAfter name hLater)

/-- Whichever place a search comes back with, it parts the smaller names from the others. -/
theorem SearchPlace.splits (hOrder : InByteOrder names) (h : SearchPlace names text place) :
    (∀ name ∈ names.take place, name < text) ∧ ∀ name ∈ names.drop place, ¬ name < text := by
  cases h with
  | found hFound =>
      obtain ⟨hWithin, hText⟩ := List.getElem?_eq_some_iff.mp hFound
      have hBehind : names.drop place = text :: names.drop (place + 1) := by
        rw [List.drop_eq_getElem_cons hWithin, hText]
      rw [← names.take_append_drop place, hBehind, inByteOrder_iff] at hOrder
      rw [hBehind]
      exact split_of_pairwise hOrder
  | missing hWithin hInserted =>
      obtain ⟨hBefore, hAfter⟩ := split_of_pairwise (inByteOrder_iff.mp hInserted)
      exact ⟨hBefore, fun name hMem => hAfter name (List.mem_cons_of_mem _ hMem)⟩

/-- The smaller names are all at the front, so dropping them one by one leaves the same list. -/
theorem dropWhile_eq_drop (hBefore : ∀ name ∈ names.take place, name < text)
    (hBehind : ∀ name ∈ names.drop place, ¬ name < text) :
    names.dropWhile (· < text) = names.drop place := by
  rw [← names.take_append_drop place, List.dropWhile_append_of_pos (by simpa using hBefore),
    names.take_append_drop place]
  cases hDrop : names.drop place with
  | nil => rfl
  | cons first others =>
      have hFirst : ¬ first < text := hBehind first (hDrop ▸ List.mem_cons_self)
      exact List.dropWhile_cons_of_neg (by simpa using hFirst)

/-- In an ascending list no name is smaller from the first one on that is not. -/
theorem not_lt_of_mem_dropWhile (hOrder : names.Pairwise (· < ·)) :
    ∀ name ∈ names.dropWhile (· < text), ¬ name < text := by
  intro name hMem
  have hRest := hOrder.sublist (names.dropWhile_sublist (· < text))
  have hHead := List.head?_dropWhile_not (· < text) names
  cases hDrop : names.dropWhile (· < text) with
  | nil =>
      rw [hDrop] at hMem
      cases hMem
  | cons first others =>
      rw [hDrop] at hMem hRest hHead
      have hFirst : ¬ first < text := by simpa using hHead
      rcases List.mem_cons.mp hMem with rfl | hLater
      · exact hFirst
      · exact fun hLess => hFirst (List.lt_trans ((List.pairwise_cons.mp hRest).1 name hLater) hLess)

/-- Between the smaller names and the larger ones the text can be inserted. -/
theorem SearchPlace.between {before behind : List (List Char)} (hOrder : InByteOrder (before ++ behind))
    (hBefore : ∀ name ∈ before, name < text) (hBehind : ∀ name ∈ behind, text < name) :
    SearchPlace (before ++ behind) text before.length := by
  rw [inByteOrder_iff, List.pairwise_append] at hOrder
  obtain ⟨hFirst, hSecond, hAcross⟩ := hOrder
  refine .missing (by simp) ?_
  rw [List.take_left, List.drop_left, inByteOrder_iff, List.pairwise_append, List.pairwise_cons]
  refine ⟨hFirst, ⟨hBehind, hSecond⟩, ?_⟩
  intro name hMem other hOther
  rcases List.mem_cons.mp hOther with rfl | hLater
  · exact hBefore name hMem
  · exact hAcross name hMem other hLater

/-- In every ascending list there is a place to come back with. -/
theorem exists_searchPlace (hOrder : InByteOrder names) (text : List Char) :
    ∃ place, SearchPlace names text place := by
  by_cases hMem : text ∈ names
  · obtain ⟨place, hFound⟩ := List.mem_iff_getElem?.mp hMem
    exact ⟨place, .found hFound⟩
  · have hSplit := names.takeWhile_append_dropWhile (p := (· < text))
    have hBefore : ∀ name ∈ names.takeWhile (· < text), name < text := by
      intro name hName
      simpa using List.mem_takeWhile_imp hName
    have hBehind : ∀ name ∈ names.dropWhile (· < text), text < name := by
      intro name hName
      have hNot := not_lt_of_mem_dropWhile (inByteOrder_iff.mp hOrder) name hName
      rcases Std.lt_trichotomy name text with hLess | rfl | hMore
      · exact absurd hLess hNot
      · exact absurd ((List.dropWhile_sublist _).subset hName) hMem
      · exact hMore
    rw [← hSplit] at hOrder
    have hPlace := SearchPlace.between hOrder hBefore hBehind
    rw [hSplit] at hPlace
    exact ⟨_, hPlace⟩

/-- Where no name is smaller than the text, those that start with it are at the front. -/
theorem takeWhile_isPrefixOf_eq_filter (hOrder : names.Pairwise (· < ·))
    (hFrom : ∀ name ∈ names, ¬ name < text) :
    names.takeWhile (text.isPrefixOf ·) = names.filter (text.isPrefixOf ·) := by
  induction names with
  | nil => rfl
  | cons first others ih =>
      rw [List.pairwise_cons] at hOrder
      cases hFirst : text.isPrefixOf first with
      | true =>
          rw [List.takeWhile_cons_of_pos hFirst, List.filter_cons_of_pos hFirst,
            ih hOrder.2 fun name hMem => hFrom name (List.mem_cons_of_mem _ hMem)]
      | false =>
          rw [List.takeWhile_cons_of_neg (by simp [hFirst]), List.filter_cons_of_neg (by simp [hFirst])]
          symm
          rw [List.filter_eq_nil_iff]
          intro name hMem hName
          have hNot : ¬ text <+: first := by rw [← List.isPrefixOf_iff_prefix, hFirst]; simp
          have hLess := Utf8.lt_of_isPrefix (hFrom first List.mem_cons_self) hNot
            (List.isPrefixOf_iff_prefix.mp hName)
          exact List.lt_asymm hLess (hOrder.1 name hMem)

/-- No name that is smaller than a text starts with it. -/
theorem not_isPrefixOf_of_lt {name : List Char} (h : name < text) : text.isPrefixOf name = false := by
  rw [← Bool.not_eq_true, List.isPrefixOf_iff_prefix]
  exact fun hPrefix => List.not_lt.mpr hPrefix.le h

/-- A search finds all names that start with the text. -/
theorem takeWhile_drop_eq_filter (hOrder : InByteOrder names) (h : SearchPlace names text place) :
    (names.drop place).takeWhile (text.isPrefixOf ·) = names.filter (text.isPrefixOf ·) := by
  obtain ⟨hBefore, hBehind⟩ := h.splits hOrder
  have hNone : (names.take place).filter (text.isPrefixOf ·) = [] :=
    List.filter_eq_nil_iff.mpr fun name hMem => by simp [not_isPrefixOf_of_lt (hBefore name hMem)]
  rw [takeWhile_isPrefixOf_eq_filter ((inByteOrder_iff.mp hOrder).drop) hBehind]
  conv_rhs => rw [← names.take_append_drop place, List.filter_append, hNone, List.nil_append]

theorem startingWith_eq_filter (hOrder : InByteOrder names) (text : List Char) :
    startingWith names text = names.filter (text.isPrefixOf ·) := by
  obtain ⟨place, hPlace⟩ := exists_searchPlace hOrder text
  obtain ⟨hBefore, hBehind⟩ := hPlace.splits hOrder
  rw [startingWith, dropWhile_eq_drop hBefore hBehind, takeWhile_drop_eq_filter hOrder hPlace]

theorem commandNames_inByteOrder : InByteOrder commandNames := by
  rw [inByteOrder_iff]
  decide

theorem isCommandStart_iff : isCommandStart line = true ↔ line.head? = some '/' ∧ ' ' ∉ line := by
  simp [isCommandStart]

theorem complete_atEnd (hStart : isCommandStart line) :
    complete (.atEnd line) = .ok (commandNames.filter (line.isPrefixOf ·)) := by
  rw [complete, EditedLine.beforeCursor?_atEnd]
  dsimp only
  rw [if_pos hStart, startingWith_eq_filter commandNames_inByteOrder]

/-- Among the names that start with the line, the longer ones are all but the line itself. -/
theorem isLonger_iff {name : List Char} (hPrefix : line <+: name) :
    name.length ≠ line.length ↔ name ≠ line :=
  not_congr ⟨fun h => (hPrefix.eq_of_length h.symm).symm, fun h => congrArg List.length h⟩

theorem hint?_atEnd (hStart : isCommandStart line) : hint? (.atEnd line) =
    (commandNames.find? fun name => line.isPrefixOf name ∧ name ≠ line).map (·.drop line.length) := by
  have hEnd : (EditedLine.atEnd line).isAtEnd = true := by simp [EditedLine.isAtEnd, EditedLine.atEnd]
  have hText : (EditedLine.atEnd line).text = line := rfl
  have hLonger (name : List Char) :
      line.isPrefixOf name = true ∧ decide (name.length ≠ line.length) = true ↔
        line.isPrefixOf name = true ∧ name ≠ line := by
    rw [decide_eq_true_eq]
    exact and_congr_right fun h => isLonger_iff (List.isPrefixOf_iff_prefix.mp h)
  rw [hint?, hText, hEnd, hStart, startingWith_eq_filter commandNames_inByteOrder, List.find?_filter]
  simp only [hLonger]
  rfl

/-- The hint is the rest of the first command that starts with the line and is longer. -/
theorem hint?_atEnd_eq_some_iff (hStart : isCommandStart line) :
    hint? (.atEnd line) = some rest ↔ rest ≠ [] ∧ ∃ before after,
      commandNames = before ++ (line ++ rest) :: after ∧
      ∀ name ∈ before, line <+: name → name = line := by
  have hPasses (name : List Char) :
      (!decide (line.isPrefixOf name = true ∧ name ≠ line)) = true ↔ (line <+: name → name = line) := by
    simp [List.isPrefixOf_iff_prefix, imp_iff_not_or]
  rw [hint?_atEnd hStart, Option.map_eq_some_iff]
  constructor
  · rintro ⟨name, hFind, rfl⟩
    obtain ⟨hName, before, after, hNames, hBefore⟩ := List.find?_eq_some_iff_append.mp hFind
    obtain ⟨hStarts, hLonger⟩ := of_decide_eq_true hName
    obtain ⟨rest, rfl⟩ := List.isPrefixOf_iff_prefix.mp hStarts
    rw [List.drop_left]
    refine ⟨?_, before, after, hNames, fun name hMem => (hPasses name).mp (hBefore name hMem)⟩
    rintro rfl
    exact hLonger (List.append_nil line)
  · rintro ⟨hRest, before, after, hNames, hBefore⟩
    refine ⟨line ++ rest, List.find?_eq_some_iff_append.mpr ⟨?_, before, after, hNames, ?_⟩,
      List.drop_left⟩
    · apply decide_eq_true
      exact ⟨List.isPrefixOf_iff_prefix.mpr (List.prefix_append _ _), by simpa using hRest⟩
    · exact fun name hMem => (hPasses name).mpr (hBefore name hMem)

theorem hint?_atEnd_eq_none_iff (hStart : isCommandStart line) :
    hint? (.atEnd line) = none ↔ ∀ name ∈ commandNames, line <+: name → name = line := by
  rw [hint?_atEnd hStart, Option.map_eq_none_iff, List.find?_eq_none]
  simp [List.isPrefixOf_iff_prefix]

/-- A search in an ascending list is complete. From any place that it may come back with, the names that
start with the text follow without a gap, and they are all there are. So at the end of a line that can be
the start of a command, the commands that start with the line are completed, all of them, and the hint is
what is missing of the first one that is longer. -/
theorem searches_find_all_that_start (hOrder : InByteOrder names) (text : List Char)
    (hSlash : line.head? = some '/') (hSpace : ' ' ∉ line) :
    ((∃ place, SearchPlace names text place) ∧
      (∀ place, SearchPlace names text place → (names.drop place).takeWhile (text.isPrefixOf ·) =
        names.filter (text.isPrefixOf ·)) ∧
      startingWith names text = names.filter (text.isPrefixOf ·)) ∧
    complete (.atEnd line) = .ok (commandNames.filter (line.isPrefixOf ·)) ∧
    (∀ rest, hint? (.atEnd line) = some rest ↔ rest ≠ [] ∧ ∃ before after,
      commandNames = before ++ (line ++ rest) :: after ∧
      ∀ name ∈ before, line <+: name → name = line) ∧
    (hint? (.atEnd line) = none ↔ ∀ name ∈ commandNames, line <+: name → name = line) := by
  have hStart : isCommandStart line = true := isCommandStart_iff.mpr ⟨hSlash, hSpace⟩
  refine ⟨⟨exists_searchPlace hOrder text, ?_, startingWith_eq_filter hOrder text⟩,
    complete_atEnd hStart, fun rest => hint?_atEnd_eq_some_iff hStart, hint?_atEnd_eq_none_iff hStart⟩
  exact fun place hPlace => takeWhile_drop_eq_filter hOrder hPlace

/-- A text between characters of three bytes and of one, which has no name that starts with it, one that two
names start with, and a line that lacks the blank of a whole command. -/
theorem searches_find_all_that_start_accents :
    let names := ["/d", "/d\u00e9", "/d\u00e9p\u00f4t", "/d\ufffd", "/f"].map String.toList
    let apart := "/d\ufffe".toList
    InByteOrder names ∧ SearchPlace names apart 4 ∧
    (names.drop 4).takeWhile (apart.isPrefixOf ·) = [] ∧
    startingWith names "/d\u00e9".toList = ["/d\u00e9", "/d\u00e9p\u00f4t"].map String.toList ∧
    complete (.atEnd "/depth".toList) = .ok ["/depth ".toList] ∧
    hint? (.atEnd "/depth".toList) = some [' '] := by
  intro names apart
  have hOrder : InByteOrder names := by
    rw [inByteOrder_iff]
    decide
  have hPlace : SearchPlace names apart 4 := by
    refine .missing (by decide) ?_
    rw [inByteOrder_iff]
    decide
  have hSlash : "/depth".toList.head? = some '/' := rfl
  have hSpace : ' ' ∉ "/depth".toList := by decide
  obtain ⟨⟨_, hPlaces, _⟩, hComplete, hHint, _⟩ :=
    searches_find_all_that_start hOrder apart hSlash hSpace
  obtain ⟨⟨_, _, hFound⟩, _⟩ := searches_find_all_that_start hOrder "/d\u00e9".toList hSlash hSpace
  refine ⟨hOrder, hPlace, ?_, ?_, ?_, ?_⟩
  · rw [hPlaces 4 hPlace]
    decide
  · rw [hFound]
    decide
  · rw [hComplete]
    decide
  · exact (hHint _).mpr ⟨by simp, [], _, rfl, by simp⟩

end HeapInspector.Repl
