/-
Unix paths as byte strings.

A path means its list of components: repeated and trailing separators and inner
dots carry nothing, and two paths are equal when their components are.  Joining
appends bytes, except that an absolute path replaces what it is joined to.
-/

import Mathlib.Data.List.Basic
import Mathlib.Data.List.Induction

namespace UnixPath

abbrev Path := List UInt8

inductive Component where
  | rootDir
  | curDir
  | parentDir
  | normal (name : List UInt8)
deriving DecidableEq, Repr

def separator : UInt8 := 0x2F

def dot : UInt8 := 0x2E

def isAbsolute (path : Path) : Bool := path.head? = some separator

/-- The text between two separators; an empty piece and an inner dot are not
components. -/
def pieceComponent (piece : List UInt8) : Option Component :=
  if piece = [] then none
  else if piece = [dot] then none
  else if piece = [dot, dot] then some .parentDir
  else some (.normal piece)

def body (path : Path) : List Component :=
  (path.splitOn separator).filterMap pieceComponent

/-- What stands before the body: the root, or a dot that starts the path. -/
def front (path : Path) : List Component :=
  if isAbsolute path then [.rootDir]
  else if (path.splitOn separator).head? = some [dot] then [.curDir]
  else []

def components (path : Path) : List Component := front path ++ body path

def join (base path : Path) : Path :=
  if isAbsolute path then path
  else if base = [] ∨ base.getLast? = some separator then base ++ path
  else base ++ separator :: path

/-- The components without the last one; a root and an empty path have no
parent. -/
def parent (path : Path) : Option (List Component) :=
  match (components path).getLast? with
  | none => none
  | some .rootDir => none
  | some _ => some (components path).dropLast

/-- The last component if it is a name. -/
def fileName (path : Path) : Option (List UInt8) :=
  match (components path).getLast? with
  | some (.normal name) => some name
  | _ => none

/-- A piece that is no component. -/
def isRedundant (piece : List UInt8) : Bool := piece = [] ∨ piece = [dot]

/-- The pieces that follow the first `count` components of a body. -/
def piecesAfter : Nat → List (List UInt8) → List (List UInt8)
  | 0, pieces => pieces
  | _ + 1, [] => []
  | count + 1, piece :: rest =>
      if isRedundant piece then piecesAfter (count + 1) rest else piecesAfter count rest

/-- What follows a base that is not empty, without the redundant pieces at its
two ends. -/
def stripPrefix (path base : Path) : Option Path :=
  if components base <+: components path then
    let pieces := piecesAfter (body base).length (path.splitOn separator)
    some (List.intercalate [separator]
      ((pieces.dropWhile isRedundant).reverse.dropWhile isRedundant).reverse)
  else none

def isNormal : Component → Bool
  | .normal _ => true
  | _ => false

/-! ### Resolving dots without looking at the file system -/

def resolveStep (resolved : List Component) : Component → List Component
  | .rootDir => [.rootDir]
  | .curDir => resolved
  | .parentDir =>
      match resolved.getLast? with
      | some (.normal _) => resolved.dropLast
      | some .rootDir => resolved
      | _ => resolved ++ [.parentDir]
  | .normal name => resolved ++ [.normal name]

def resolve (path : Path) : List Component := (components path).foldl resolveStep []

/-- After resolving, the path is the base followed by names only. -/
def Inside (base path : Path) : Prop :=
  ∃ below, resolve path = resolve base ++ below ∧ below.all isNormal = true

instance (base path : Path) : Decidable (Inside base path) :=
  decidable_of_iff (resolve base <+: resolve path ∧
      ((resolve path).drop (resolve base).length).all isNormal = true) (by
    constructor
    · intro both
      obtain ⟨⟨below, extended⟩, names⟩ := both
      refine ⟨below, extended.symm, ?_⟩
      rw [← extended, List.drop_left] at names
      exact names
    · intro inside
      obtain ⟨below, extended, names⟩ := inside
      rw [extended, List.drop_left]
      exact ⟨List.prefix_append _ _, names⟩)

/-- The depth below the start after a list of components, `none` once it would
climb above the start. -/
def descend : Nat → List Component → Option Nat
  | depth, [] => some depth
  | 0, .parentDir :: _ => none
  | depth + 1, .parentDir :: rest => descend depth rest
  | depth, .normal _ :: rest => descend (depth + 1) rest
  | depth, _ :: rest => descend depth rest

private theorem descend_normal (depth : Nat) (name : List UInt8) (rest : List Component) :
    descend depth (.normal name :: rest) = descend (depth + 1) rest := by
  cases depth <;> rfl

/-- A relative path that never climbs above its start. -/
def StaysBelow (path : Path) : Prop :=
  isAbsolute path = false ∧ (descend 0 (body path)).isSome = true

instance (path : Path) : Decidable (StaysBelow path) :=
  inferInstanceAs (Decidable (_ ∧ _))

theorem body_cases (path : Path) (component : Component) (member : component ∈ body path) :
    component = .parentDir ∨ ∃ name, component = .normal name := by
  obtain ⟨piece, _, read⟩ := List.mem_filterMap.mp member
  unfold pieceComponent at read
  split at read
  · cases read
  · split at read
    · cases read
    · split at read
      · cases read
        exact Or.inl rfl
      · cases read
        exact Or.inr ⟨piece, rfl⟩

/-! ### Joining -/

private theorem body_append_separator (first second : Path) :
    body (first ++ separator :: second) = body first ++ body second := by
  unfold body
  rw [List.splitOn_append_cons_self, List.filterMap_append]

theorem front_append_separator (first second : Path) (nonempty : first ≠ []) :
    front (first ++ separator :: second) = front first := by
  have sameHead : (first ++ separator :: second).head? = first.head? :=
    List.head?_append_of_ne_nil first nonempty
  have samePiece : ((first ++ separator :: second).splitOn separator).head? =
      (first.splitOn separator).head? := by
    rw [List.splitOn_append_cons_self]
    exact List.head?_append_of_ne_nil _ (List.splitOn_ne_nil _ _)
  unfold front isAbsolute
  rw [sameHead, samePiece]

theorem body_snoc_separator (path : Path) :
    body (path ++ [separator]) = body path := by
  rw [body_append_separator]
  exact List.append_nil _

private theorem foldl_front_of_relative (path : Path) (relative : isAbsolute path = false) :
    (front path).foldl resolveStep [] = [] := by
  unfold front
  rw [if_neg (by rw [relative]; exact Bool.false_ne_true)]
  split <;> rfl

theorem resolve_join (base path : Path) (relative : isAbsolute path = false) :
    resolve (join base path) = (body path).foldl resolveStep (resolve base) := by
  unfold join
  rw [if_neg (by rw [relative]; exact Bool.false_ne_true)]
  by_cases empty : base = []
  · rw [if_pos (Or.inl empty), empty]
    unfold resolve components
    rw [List.nil_append, List.foldl_append, foldl_front_of_relative path relative]
    rfl
  · by_cases trailing : base.getLast? = some separator
    · rw [if_pos (Or.inr trailing)]
      obtain ⟨shorter, rfl⟩ := List.getLast?_eq_some_iff.mp trailing
      rw [List.append_assoc]
      change resolve (shorter ++ separator :: path) = _
      unfold resolve components
      rw [body_append_separator, body_snoc_separator]
      by_cases rootOnly : shorter = []
      · subst rootOnly
        rfl
      · rw [front_append_separator _ _ rootOnly, front_append_separator _ _ rootOnly,
          ← List.append_assoc, List.foldl_append]
    · rw [if_neg (by intro either; exact either.elim empty trailing)]
      unfold resolve components
      rw [body_append_separator, front_append_separator _ _ empty, ← List.append_assoc,
        List.foldl_append]

/-! ### Staying inside -/

private theorem foldl_resolveStep_of_descend (base : List Component)
    (steps names : List Component)
    (relative : ∀ step, step ∈ steps → step = .parentDir ∨ ∃ name, step = .normal name)
    (allNames : names.all isNormal = true)
    (stays : (descend names.length steps).isSome = true) :
    ∃ below, steps.foldl resolveStep (base ++ names) = base ++ below ∧
      below.all isNormal = true := by
  induction steps generalizing names with
  | nil => exact ⟨names, rfl, allNames⟩
  | cons step rest ih =>
      have restRelative : ∀ later, later ∈ rest →
          later = .parentDir ∨ ∃ name, later = .normal name :=
        fun later member => relative later (List.mem_cons_of_mem _ member)
      rw [List.foldl_cons]
      rcases relative step List.mem_cons_self with isParent | ⟨name, isName⟩
      · subst isParent
        cases names using List.reverseRecOn with
        | nil => cases stays
        | append_singleton names last =>
            rw [List.all_append, Bool.and_eq_true_iff] at allNames
            cases last with
            | normal name =>
                rw [List.length_append] at stays
                have popped : resolveStep (base ++ (names ++ [.normal name])) .parentDir =
                    base ++ names := by
                  unfold resolveStep
                  rw [← List.append_assoc, List.getLast?_concat, List.dropLast_concat]
                rw [popped]
                exact ih names restRelative allNames.1 stays
            | rootDir => cases allNames.2
            | curDir => cases allNames.2
            | parentDir => cases allNames.2
      · subst isName
        have pushed : resolveStep (base ++ names) (.normal name) =
            base ++ (names ++ [.normal name]) := by
          exact List.append_assoc base names _
        rw [descend_normal] at stays
        rw [pushed]
        apply ih (names ++ [Component.normal name]) restRelative
        · rw [List.all_append, allNames]
          rfl
        · rw [List.length_append]
          exact stays

theorem inside_join_of_staysBelow (base path : Path) (stays : StaysBelow path) :
    Inside base (join base path) := by
  unfold Inside
  rw [resolve_join base path stays.1]
  have resolved := foldl_resolveStep_of_descend (resolve base) (body path) []
    (body_cases path) rfl stays.2
  rw [List.append_nil] at resolved
  exact resolved

/-! ### Leaving a base that the path does not name -/

private theorem length_le_of_mem_splitOn (path : Path) (piece : List UInt8)
    (member : piece ∈ path.splitOn separator) : piece.length ≤ path.length := by
  induction path generalizing piece with
  | nil =>
      rw [List.splitOn_nil, List.mem_singleton] at member
      exact Nat.le_of_eq (congrArg List.length member)
  | cons byte rest ih =>
      rw [List.splitOn_cons_eq_if_modifyHead] at member
      split at member
      · rcases List.mem_cons.mp member with isEmpty | later
        · rw [isEmpty]
          exact Nat.zero_le _
        · exact Nat.le_succ_of_le (ih piece later)
      · cases pieces : rest.splitOn separator with
        | nil => exact absurd pieces (List.splitOn_ne_nil _ _)
        | cons head tail =>
            rw [pieces] at member ih
            rcases List.mem_cons.mp member with isHead | later
            · rw [isHead]
              exact Nat.succ_le_succ (ih head List.mem_cons_self)
            · exact Nat.le_succ_of_le (ih piece (List.mem_cons_of_mem _ later))

theorem length_le_of_normal_mem_body (path : Path) (name : List UInt8)
    (member : .normal name ∈ body path) : name.length ≤ path.length := by
  obtain ⟨piece, isPiece, read⟩ := List.mem_filterMap.mp member
  unfold pieceComponent at read
  split at read
  · cases read
  · split at read
    · cases read
    · split at read
      · cases read
      · cases read
        exact length_le_of_mem_splitOn path name isPiece

/-- Resolving invents no name. -/
private theorem normal_mem_foldl_resolveStep (name : List UInt8)
    (steps resolved : List Component)
    (member : .normal name ∈ steps.foldl resolveStep resolved) :
    .normal name ∈ resolved ∨ .normal name ∈ steps := by
  induction steps generalizing resolved with
  | nil => exact Or.inl member
  | cons step rest ih =>
      rcases ih _ member with earlier | later
      · cases step with
        | rootDir =>
            rw [resolveStep, List.mem_singleton] at earlier
            cases earlier
        | curDir => exact Or.inl earlier
        | parentDir =>
            unfold resolveStep at earlier
            dsimp only at earlier
            split at earlier
            · exact Or.inl (List.dropLast_subset _ earlier)
            · exact Or.inl earlier
            · rcases List.mem_append.mp earlier with old | last
              · exact Or.inl old
              · cases List.mem_singleton.mp last
        | normal other =>
            rcases List.mem_append.mp earlier with old | last
            · exact Or.inl old
            · rw [List.mem_singleton.mp last]
              exact Or.inr List.mem_cons_self
      · exact Or.inr (List.mem_cons_of_mem _ later)

/-- A directory below the root with a name that no component of the path can
have. -/
def strangerBase (path : Path) : Path :=
  separator :: List.replicate (path.length + 1) 0x61

def strangerName (path : Path) : List UInt8 := List.replicate (path.length + 1) 0x61

theorem resolve_strangerBase (path : Path) :
    resolve (strangerBase path) = [.rootDir, .normal (strangerName path)] := by
  have noSeparator : separator ∉ strangerName path := by
    intro member
    have same := (List.mem_replicate.mp member).2
    revert same
    decide
  have pieces : (strangerBase path).splitOn separator = [[], strangerName path] := by
    have split := List.splitOn_append_cons_self (a := separator) [] (strangerName path)
    rw [List.splitOn_eq_singleton noSeparator] at split
    exact split
  have readName : pieceComponent (strangerName path) = some (.normal (strangerName path)) := by
    have starts : strangerName path = 0x61 :: List.replicate path.length 0x61 := rfl
    have notDot : (0x61 : UInt8) ≠ dot := by decide
    unfold pieceComponent
    rw [starts, if_neg (List.cons_ne_nil _ _), if_neg, if_neg]
    · intro isParent
      exact notDot (List.cons.inj isParent).1
    · intro isDot
      exact notDot (List.cons.inj isDot).1
  have bodyEq : body (strangerBase path) = [.normal (strangerName path)] := by
    unfold body
    rw [pieces, List.filterMap_cons_none rfl, List.filterMap_cons_some readName,
      List.filterMap_nil]
  unfold resolve components
  rw [bodyEq]
  rfl

theorem stranger_notMem_body (path : Path) : .normal (strangerName path) ∉ body path := by
  intro member
  have short := length_le_of_normal_mem_body path _ member
  rw [strangerName, List.length_replicate] at short
  omega

/-- Climbing above the stranger loses its name for good. -/
private theorem stranger_notMem_of_climbs (stranger : List UInt8)
    (steps names : List Component)
    (relative : ∀ step, step ∈ steps → step = .parentDir ∨ ∃ name, step = .normal name)
    (allNames : names.all isNormal = true)
    (freshSteps : .normal stranger ∉ steps) (freshNames : .normal stranger ∉ names)
    (climbs : descend names.length steps = none) :
    .normal stranger ∉ steps.foldl resolveStep ([.rootDir, .normal stranger] ++ names) := by
  induction steps generalizing names with
  | nil => cases climbs
  | cons step rest ih =>
      have restRelative : ∀ later, later ∈ rest →
          later = .parentDir ∨ ∃ name, later = .normal name :=
        fun later member => relative later (List.mem_cons_of_mem _ member)
      have restFresh : .normal stranger ∉ rest :=
        fun member => freshSteps (List.mem_cons_of_mem _ member)
      rw [List.foldl_cons]
      rcases relative step List.mem_cons_self with isParent | ⟨name, isName⟩
      · subst isParent
        cases names using List.reverseRecOn with
        | nil =>
            -- the stranger itself is popped here
            change .normal stranger ∉ rest.foldl resolveStep [.rootDir]
            intro member
            rcases normal_mem_foldl_resolveStep stranger rest _ member with atRoot | later
            · cases List.mem_singleton.mp atRoot
            · exact restFresh later
        | append_singleton names last =>
            rw [List.all_append, Bool.and_eq_true_iff] at allNames
            have namesFresh : .normal stranger ∉ names :=
              fun member => freshNames (List.mem_append_left _ member)
            cases last with
            | normal name =>
                rw [List.length_append] at climbs
                have popped : resolveStep
                    ([.rootDir, .normal stranger] ++ (names ++ [.normal name])) .parentDir =
                      [.rootDir, .normal stranger] ++ names := by
                  unfold resolveStep
                  rw [← List.append_assoc, List.getLast?_concat, List.dropLast_concat]
                rw [popped]
                exact ih names restRelative allNames.1 restFresh namesFresh climbs
            | rootDir => cases allNames.2
            | curDir => cases allNames.2
            | parentDir => cases allNames.2
      · subst isName
        have pushed : resolveStep ([.rootDir, .normal stranger] ++ names) (.normal name) =
            [.rootDir, .normal stranger] ++ (names ++ [.normal name]) :=
          List.append_assoc _ names _
        rw [descend_normal] at climbs
        rw [pushed]
        apply ih (names ++ [Component.normal name]) restRelative
        · rw [List.all_append, allNames]
          rfl
        · exact restFresh
        · intro member
          rcases List.mem_append.mp member with old | last
          · exact freshNames old
          · rw [List.mem_singleton.mp last] at freshSteps
            exact freshSteps List.mem_cons_self
        · rw [List.length_append]
          exact climbs

private theorem stranger_notMem_of_absolute (path : Path)
    (absolute : isAbsolute path = true) : .normal (strangerName path) ∉ resolve path := by
  unfold resolve components front
  rw [if_pos absolute]
  intro member
  rcases normal_mem_foldl_resolveStep _ _ _ member with impossible | named
  · cases impossible
  · rcases List.mem_cons.mp named with impossible | inBody
    · cases impossible
    · exact stranger_notMem_body path inBody

/-- The paths that stay inside whatever they are joined to are the relative ones
that never climb above their start. -/
theorem inside_join_iff_staysBelow (path : Path) :
    (∀ base, Inside base (join base path)) ↔ StaysBelow path := by
  constructor
  · intro always
    obtain ⟨below, resolved, _⟩ := always (strangerBase path)
    rw [resolve_strangerBase] at resolved
    have kept : .normal (strangerName path) ∈ resolve (join (strangerBase path) path) := by
      rw [resolved]
      exact List.mem_cons_of_mem _ List.mem_cons_self
    cases absolute : isAbsolute path with
    | true =>
        unfold join at kept
        rw [if_pos absolute] at kept
        exact absurd kept (stranger_notMem_of_absolute path absolute)
    | false =>
        refine ⟨absolute, ?_⟩
        cases depth : descend 0 (body path) with
        | some _ => rfl
        | none =>
            rw [resolve_join _ path absolute, resolve_strangerBase] at kept
            exact absurd kept (stranger_notMem_of_climbs (strangerName path) (body path) []
              (body_cases path) rfl (stranger_notMem_body path) List.not_mem_nil depth)
  · intro stays base
    exact inside_join_of_staysBelow base path stays

end UnixPath
