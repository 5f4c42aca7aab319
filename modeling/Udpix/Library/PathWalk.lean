/-
Walking down from a directory, one listed name after the other.

A walk is its start with a relative path appended, so its components are those
of the start followed by the names, and stripping the start gives the relative
path back, however the start is written.
-/

import Udpix.Library.UnixPath

namespace UnixPath

structure EntryName where
  bytes : List UInt8
  nonempty : bytes ≠ []
  plain : separator ∉ bytes
  notDot : bytes ≠ [dot]
  notDots : bytes ≠ [dot, dot]
deriving DecidableEq

def EntryName.component (name : EntryName) : Component := .normal name.bytes

theorem component_injective : Function.Injective EntryName.component := by
  rintro ⟨first, _, _, _, _⟩ ⟨second, _, _, _, _⟩ same
  cases same
  rfl

/-- The relative path through these names. -/
def below (names : List EntryName) : Path :=
  List.intercalate [separator] (names.map EntryName.bytes)

def walk (base : Path) (names : List EntryName) : Path :=
  names.foldl (fun dir name => join dir name.bytes) base

/-- What a relative path is appended to when it is joined. -/
def lead (base : Path) : Path :=
  if base = [] ∨ base.getLast? = some separator then base else base ++ [separator]

theorem join_eq_lead (base : Path) {path : Path} (relative : isAbsolute path = false) :
    join base path = lead base ++ path := by
  rw [join, if_neg (by rw [relative]; exact Bool.false_ne_true), lead]
  split
  · rfl
  · rw [List.append_assoc, List.singleton_append]

theorem EntryName.isAbsolute_append (name : EntryName) (rest : Path) :
    isAbsolute (name.bytes ++ rest) = false := by
  obtain ⟨first, more, split⟩ := List.exists_cons_of_ne_nil name.nonempty
  have notFirst : first ≠ separator := by
    rintro rfl
    exact name.plain (by rw [split]; exact List.mem_cons_self)
  rw [isAbsolute, split, List.cons_append, List.head?_cons]
  exact decide_eq_false (fun same => notFirst (Option.some.inj same))

theorem EntryName.isAbsolute_eq_false (name : EntryName) : isAbsolute name.bytes = false := by
  have appended := name.isAbsolute_append []
  rw [List.append_nil] at appended
  exact appended

theorem below_cons_cons (first second : EntryName) (rest : List EntryName) :
    below (first :: second :: rest) = first.bytes ++ separator :: below (second :: rest) := by
  rw [below, List.map_cons, List.map_cons, List.intercalate_cons_cons, ← List.map_cons,
    List.append_assoc, List.singleton_append, below]

theorem below_singleton (name : EntryName) : below [name] = name.bytes := by
  rw [below, List.map_singleton, List.intercalate_singleton]

theorem isAbsolute_below (names : List EntryName) : isAbsolute (below names) = false := by
  match names with
  | [] => rfl
  | [name] =>
      rw [below_singleton]
      exact name.isAbsolute_eq_false
  | first :: second :: rest =>
      rw [below_cons_cons]
      exact first.isAbsolute_append _

theorem lead_join_name (base : Path) (name : EntryName) :
    lead (join base name.bytes) = lead base ++ (name.bytes ++ [separator]) := by
  rw [join_eq_lead base name.isAbsolute_eq_false]
  have unclosed : ¬ (lead base ++ name.bytes = [] ∨
      (lead base ++ name.bytes).getLast? = some separator) := by
    rintro (empty | trailing)
    · exact name.nonempty (List.append_eq_nil_iff.mp empty).2
    · rw [List.getLast?_append_of_ne_nil _ name.nonempty] at trailing
      exact name.plain (List.mem_of_getLast? trailing)
  rw [lead, if_neg unclosed, List.append_assoc]

theorem walk_eq (base : Path) {names : List EntryName} (named : names ≠ []) :
    walk base names = lead base ++ below names := by
  induction names generalizing base with
  | nil => exact absurd rfl named
  | cons first rest ih =>
      cases rest with
      | nil =>
          rw [below_singleton]
          exact join_eq_lead base first.isAbsolute_eq_false
      | cons second rest =>
          have later := ih (join base first.bytes) (List.cons_ne_nil _ _)
          rw [lead_join_name, List.append_assoc, List.append_assoc, List.singleton_append] at later
          rw [below_cons_cons]
          exact later

theorem EntryName.pieceComponent (name : EntryName) :
    UnixPath.pieceComponent name.bytes = some name.component := by
  rw [UnixPath.pieceComponent, if_neg name.nonempty, if_neg name.notDot, if_neg name.notDots]
  rfl

theorem EntryName.isRedundant (name : EntryName) : UnixPath.isRedundant name.bytes = false :=
  decide_eq_false (fun either => either.elim name.nonempty name.notDot)

theorem splitOn_below {names : List EntryName} (named : names ≠ []) :
    (below names).splitOn separator = names.map EntryName.bytes := by
  apply List.splitOn_intercalate
  · intro piece member
    obtain ⟨name, _, rfl⟩ := List.mem_map.mp member
    exact name.plain
  · exact fun empty => named (List.map_eq_nil_iff.mp empty)

theorem filterMap_pieceComponent (names : List EntryName) :
    (names.map EntryName.bytes).filterMap UnixPath.pieceComponent =
      names.map EntryName.component := by
  induction names with
  | nil => rfl
  | cons name rest ih =>
      rw [List.map_cons, List.filterMap_cons_some name.pieceComponent, ih, List.map_cons]

/-- The pieces of a walk are pieces of its start followed by the names. -/
theorem splitOn_walk (base : Path) {names : List EntryName} (named : names ≠ []) :
    ∃ pieces, (walk base names).splitOn separator = pieces ++ names.map EntryName.bytes ∧
      pieces.filterMap UnixPath.pieceComponent = body base ∧
      front (walk base names) = front base := by
  rw [walk_eq base named]
  by_cases empty : base = []
  · subst empty
    refine ⟨[], splitOn_below named, rfl, ?_⟩
    rw [lead, if_pos (.inl rfl), List.nil_append, front, isAbsolute_below, splitOn_below named]
    obtain ⟨name, rest, rfl⟩ := List.exists_cons_of_ne_nil named
    rw [List.map_cons, List.head?_cons,
      if_neg (fun same => name.notDot (Option.some.inj same))]
    rfl
  · by_cases trailing : base.getLast? = some separator
    · obtain ⟨shorter, rfl⟩ := List.getLast?_eq_some_iff.mp trailing
      refine ⟨shorter.splitOn separator, ?_, (body_snoc_separator shorter).symm, ?_⟩
      · rw [lead, if_pos (.inr trailing), List.append_assoc, List.singleton_append,
          List.splitOn_append_cons_self, splitOn_below named]
      · rw [lead, if_pos (.inr trailing), List.append_assoc, List.singleton_append]
        by_cases rootOnly : shorter = []
        · subst rootOnly
          rfl
        · rw [front_append_separator _ _ rootOnly, front_append_separator _ _ rootOnly]
    · have unclosed : ¬ (base = [] ∨ base.getLast? = some separator) :=
        fun either => either.elim empty trailing
      refine ⟨base.splitOn separator, ?_, rfl, ?_⟩
      · rw [lead, if_neg unclosed, List.append_assoc, List.singleton_append,
          List.splitOn_append_cons_self, splitOn_below named]
      · rw [lead, if_neg unclosed, List.append_assoc, List.singleton_append,
          front_append_separator _ _ empty]

theorem components_walk (base : Path) (names : List EntryName) :
    components (walk base names) = components base ++ names.map EntryName.component := by
  by_cases unnamed : names = []
  · subst unnamed
    exact (List.append_nil _).symm
  · obtain ⟨pieces, split, started, sameFront⟩ := splitOn_walk base unnamed
    rw [components, sameFront, body, split, List.filterMap_append, started,
      filterMap_pieceComponent, components, List.append_assoc]

theorem components_below (names : List EntryName) :
    components (below names) = names.map EntryName.component := by
  by_cases unnamed : names = []
  · subst unnamed
    rfl
  · have walked := components_walk [] names
    rw [walk_eq [] unnamed, lead, if_pos (.inl rfl), List.nil_append] at walked
    exact walked

theorem pieceComponent_eq_none_iff (piece : List UInt8) :
    pieceComponent piece = none ↔ isRedundant piece = true := by
  rw [pieceComponent, isRedundant, decide_eq_true_iff]
  by_cases empty : piece = []
  · rw [if_pos empty]
    exact iff_of_true rfl (.inl empty)
  · by_cases isDot : piece = [dot]
    · rw [if_neg empty, if_pos isDot]
      exact iff_of_true rfl (.inr isDot)
    · rw [if_neg empty, if_neg isDot]
      refine iff_of_false ?_ (fun either => either.elim empty isDot)
      split
      · exact Option.some_ne_none _
      · exact Option.some_ne_none _

/-- After the components of the start, only redundant pieces stand before the
names. -/
theorem dropWhile_piecesAfter (pieces : List (List UInt8)) {names : List EntryName}
    (named : names ≠ []) :
    (piecesAfter (pieces.filterMap pieceComponent).length
        (pieces ++ names.map EntryName.bytes)).dropWhile isRedundant =
      names.map EntryName.bytes := by
  induction pieces with
  | nil =>
      obtain ⟨name, rest, rfl⟩ := List.exists_cons_of_ne_nil named
      rw [List.filterMap_nil, List.nil_append, List.length_nil, piecesAfter, List.map_cons,
        List.dropWhile_cons_of_neg]
      rw [name.isRedundant]
      exact Bool.false_ne_true
  | cons piece rest ih =>
      cases read : pieceComponent piece with
      | none =>
          have redundant := (pieceComponent_eq_none_iff piece).mp read
          rw [List.filterMap_cons_none read]
          cases count : (rest.filterMap pieceComponent).length with
          | zero =>
              rw [count, piecesAfter] at ih
              rw [piecesAfter, List.cons_append, List.dropWhile_cons_of_pos redundant]
              exact ih
          | succ fewer =>
              rw [count] at ih
              rw [List.cons_append, piecesAfter, if_pos redundant]
              exact ih
      | some component =>
          have solid : ¬ isRedundant piece = true := by
            intro redundant
            rw [(pieceComponent_eq_none_iff piece).mpr redundant] at read
            cases read
          rw [List.filterMap_cons_some read, List.length_cons, List.cons_append, piecesAfter,
            if_neg solid]
          exact ih

theorem stripPrefix_walk (base : Path) {names : List EntryName} (named : names ≠ []) :
    stripPrefix (walk base names) base = some (below names) := by
  obtain ⟨pieces, split, started, _⟩ := splitOn_walk base named
  have starts : components base <+: components (walk base names) := by
    rw [components_walk]
    exact List.prefix_append _ _
  have untrimmed : ((names.map EntryName.bytes).reverse.dropWhile isRedundant).reverse =
      names.map EntryName.bytes := by
    obtain ⟨front, last, rfl⟩ := List.eq_nil_or_concat names |>.resolve_left named
    rw [List.concat_eq_append, List.map_append, List.reverse_append, List.map_singleton,
      List.reverse_singleton, List.singleton_append, List.dropWhile_cons_of_neg]
    · rw [List.reverse_cons, List.reverse_reverse]
    · rw [last.isRedundant]
      exact Bool.false_ne_true
  rw [stripPrefix, if_pos starts, split, ← started]
  dsimp only
  rw [dropWhile_piecesAfter pieces named, untrimmed, below]

end UnixPath
