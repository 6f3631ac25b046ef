import TableQuery.Proofs.Request.WellFormed
import TableQuery.Source.Csv
import Mathlib.Data.List.Induction

/-! Where the file of a table stands.

Paths are resolved by their texts alone: an empty name and `.` lead nowhere, and `..` takes back the
name in front of it. The name of a table is part of the path of its file. A name without a slash
stays below the directory of the tables. A name with slashes may lead out of it, and a name that
begins with a slash does not start there.
-/

set_option autoImplicit false

namespace TableQuery.Csv

open Text

/-- A path without `.` and `..`. -/
structure ResolvedPath where
  absolute : Bool
  /-- How many directories a relative path climbs above its start. -/
  climbs : Nat
  names : List (List Char)
  deriving DecidableEq, Repr

namespace ResolvedPath

def start (absolute : Bool) : ResolvedPath :=
  ⟨absolute, 0, []⟩

/-- One directory up. The root is its own parent. -/
def parent (path : ResolvedPath) : ResolvedPath :=
  if path.names ≠ [] then { path with names := path.names.dropLast }
  else if path.absolute then path
  else { path with climbs := path.climbs + 1 }

def enter (path : ResolvedPath) (name : List Char) : ResolvedPath :=
  if name = [] ∨ name = ['.'] then path
  else if name = ['.', '.'] then path.parent
  else { path with names := path.names ++ [name] }

def resolve (text : String) : ResolvedPath :=
  (pieces (· == '/') text.toList).foldl enter (start (text.startsWith "/"))

def followedBy (directory path : ResolvedPath) : ResolvedPath where
  absolute := directory.absolute
  climbs := if directory.absolute then directory.climbs
    else directory.climbs + (path.climbs - directory.names.length)
  names := directory.names.take (directory.names.length - path.climbs) ++ path.names

def ProperPrefix (front names : List (List Char)) : Prop :=
  front <+: names ∧ front ≠ names

instance (front names : List (List Char)) : Decidable (ProperPrefix front names) :=
  inferInstanceAs (Decidable (_ ∧ _))

/-- The directory is a proper prefix of the path. Directories above the start have no names, so
both have to climb equally. -/
def Below (path directory : ResolvedPath) : Prop :=
  path.absolute = directory.absolute ∧ path.climbs = directory.climbs ∧
    ProperPrefix directory.names path.names

instance (path directory : ResolvedPath) : Decidable (path.Below directory) :=
  inferInstanceAs (Decidable (_ ∧ _))

/-- The path, followed from the directory, leaves none of its names for good: those that it climbs
out of are the ones that it names first. An absolute path names them all. -/
def ReturnsTo (path directory : ResolvedPath) : Prop :=
  if path.absolute then directory.absolute = true ∧ ProperPrefix directory.names path.names
  else (directory.absolute = true ∨ path.climbs ≤ directory.names.length) ∧
    ProperPrefix (directory.names.drop (directory.names.length - path.climbs)) path.names

instance (path directory : ResolvedPath) : Decidable (path.ReturnsTo directory) :=
  inferInstanceAs (Decidable (ite _ _ _))

variable {path directory : ResolvedPath} {name : List Char} {names : List (List Char)}

@[simp] theorem parent_absolute (path : ResolvedPath) : path.parent.absolute = path.absolute := by
  unfold parent
  split
  · rfl
  · split <;> rfl

@[simp] theorem enter_absolute (path : ResolvedPath) (name : List Char) :
    (path.enter name).absolute = path.absolute := by
  unfold enter
  split
  · rfl
  · split
    · exact parent_absolute path
    · rfl

@[simp] theorem foldl_enter_absolute (path : ResolvedPath) (names : List (List Char)) :
    (names.foldl enter path).absolute = path.absolute := by
  induction names generalizing path with
  | nil => rfl
  | cons name names ih => rw [List.foldl_cons, ih, enter_absolute]

@[simp] theorem resolve_absolute (text : String) :
    (resolve text).absolute = text.startsWith "/" :=
  foldl_enter_absolute _ _

theorem enter_climbs (absolute : path.absolute = true) (name : List Char) :
    (path.enter name).climbs = path.climbs := by
  unfold enter parent
  rw [if_pos absolute]
  repeat' split
  all_goals rfl

theorem foldl_enter_climbs (absolute : path.absolute = true) (names : List (List Char)) :
    (names.foldl enter path).climbs = path.climbs := by
  induction names generalizing path with
  | nil => rfl
  | cons name names ih =>
    rw [List.foldl_cons, ih (by rw [enter_absolute, absolute]), enter_climbs absolute]

theorem resolve_climbs {text : String} (absolute : (resolve text).absolute = true) :
    (resolve text).climbs = 0 := by
  rw [resolve_absolute] at absolute
  exact foldl_enter_climbs absolute _

theorem followedBy_start (directory : ResolvedPath) :
    directory.followedBy (start false) = directory := by
  simp [followedBy, start]

theorem followedBy_parent (relative : path.absolute = false) :
    (directory.followedBy path).parent = directory.followedBy path.parent := by
  by_cases named : path.names = []
  · have up : path.parent = { path with climbs := path.climbs + 1 } := by
      simp [parent, named, relative]
    rw [up]
    by_cases left : path.climbs < directory.names.length
    -- The climb takes back a name of the directory.
    · have filled : (directory.followedBy path).names ≠ [] := by
        apply List.ne_nil_of_length_pos
        simp only [followedBy, named, List.append_nil, List.length_take]
        omega
      have back : path.climbs - directory.names.length = 0 := by omega
      have further : path.climbs + 1 - directory.names.length = 0 := by omega
      have dropped : min (directory.names.length - path.climbs - 1) directory.names.length =
          directory.names.length - (path.climbs + 1) := by omega
      rw [parent, if_pos filled]
      simp [followedBy, named, back, further, List.dropLast_eq_take, List.take_take, dropped]
    -- The climb finds no name to take back.
    · have past : directory.names.length - path.climbs = 0 := by omega
      have further : directory.names.length - (path.climbs + 1) = 0 := by omega
      have more : path.climbs + 1 - directory.names.length =
          path.climbs - directory.names.length + 1 := by omega
      cases rooted : directory.absolute <;>
        simp [parent, followedBy, named, past, further, more, rooted, Nat.add_assoc]
  · have filled : (directory.followedBy path).names ≠ [] := by simp [followedBy, named]
    rw [parent, parent, if_pos filled, if_pos named]
    simp [followedBy, List.dropLast_append_of_ne_nil named]

theorem followedBy_enter (relative : path.absolute = false) (name : List Char) :
    (directory.followedBy path).enter name = directory.followedBy (path.enter name) := by
  unfold enter
  split
  · rfl
  · split
    · exact followedBy_parent relative
    · simp [followedBy]

theorem foldl_followedBy (relative : path.absolute = false) (names : List (List Char)) :
    names.foldl enter (directory.followedBy path) =
      directory.followedBy (names.foldl enter path) := by
  induction names generalizing path with
  | nil => rfl
  | cons name names ih =>
    rw [List.foldl_cons, List.foldl_cons, followedBy_enter relative,
      ih (by rw [enter_absolute, relative])]

theorem foldl_pieces_eq_followedBy {text : String} (relative : text.startsWith "/" = false)
    (directory : ResolvedPath) :
    (pieces (· == '/') text.toList).foldl enter directory =
      directory.followedBy (resolve text) := by
  rw [resolve, relative, ← foldl_followedBy rfl, followedBy_start]

theorem startsWith_slash (text : String) :
    text.startsWith "/" = (text.toList.head? == some '/') := by
  rw [Bool.eq_iff_iff, String.startsWith_string_iff]
  cases text.toList with
  | nil => simp
  | cons c rest => simp [@eq_comm _ '/' c]

theorem startsWith_append {front : String} (nonempty : front ≠ "") (rest : String) :
    (front ++ rest).startsWith "/" = front.startsWith "/" := by
  obtain ⟨c, more, filled⟩ := List.exists_cons_of_ne_nil (mt String.toList_eq_nil_iff.1 nonempty)
  rw [startsWith_slash, startsWith_slash, String.toList_append, filled]
  rfl

theorem resolve_pathIn {path : String} (relative : path.startsWith "/" = false)
    (directory : String) :
    resolve (pathIn directory path) = (resolve directory).followedBy (resolve path) := by
  rw [← foldl_pieces_eq_followedBy relative, pathIn, relative, Bool.false_or]
  split
  · rename_i empty
    rw [String.isEmpty_iff.1 empty, resolve, relative]
    rfl
  · rename_i filled
    have nonempty : directory ≠ "" := mt String.isEmpty_iff.2 filled
    split
    · rename_i ended
      rw [← String.endsWith_toSlice, String.Slice.endsWith_string_iff, String.copy_toSlice] at ended
      obtain ⟨front, whole⟩ := ended
      -- The slash at the end leaves an empty piece, which enters nothing.
      have pieces_directory : pieces (· == '/') directory.toList =
          pieces (· == '/') front ++ [[]] := by
        rw [← whole]
        exact pieces_append (by decide) front []
      have pieces_whole : pieces (· == '/') (directory ++ path).toList =
          pieces (· == '/') front ++ pieces (· == '/') path.toList := by
        rw [String.toList_append, ← whole, List.append_assoc]
        exact pieces_append (by decide) front path.toList
      rw [resolve, resolve, startsWith_append nonempty, pieces_directory, pieces_whole,
        List.foldl_append, List.foldl_append]
      rfl
    · have pieces_whole : pieces (· == '/') (directory ++ "/" ++ path).toList =
          pieces (· == '/') directory.toList ++ pieces (· == '/') path.toList := by
        rw [String.toList_append, String.toList_append, List.append_assoc]
        exact pieces_append (by decide) directory.toList path.toList
      rw [resolve, resolve, pieces_whole, List.foldl_append, String.append_assoc,
        startsWith_append nonempty]

theorem properPrefix_take_append (count : Nat) (front names : List (List Char)) :
    ProperPrefix front (front.take count ++ names) ↔ ProperPrefix (front.drop count) names := by
  have whole : front.take count ++ front.drop count = front := List.take_append_drop count front
  rw [ProperPrefix, ProperPrefix]
  nth_rewrite 1 3 [← whole]
  rw [List.prefix_append_right_inj, ne_eq, ne_eq, List.append_cancel_left_eq]

theorem below_pathIn_iff (directory path : String) :
    (resolve (pathIn directory path)).Below (resolve directory) ↔
      (resolve path).ReturnsTo (resolve directory) := by
  cases absolute : path.startsWith "/" with
  | true =>
    have same : pathIn directory path = path := by rw [pathIn, absolute, Bool.true_or, if_pos rfl]
    have rooted : (resolve path).absolute = true := (resolve_absolute path).trans absolute
    rw [same, Below, ReturnsTo, if_pos rooted, rooted, resolve_climbs rooted, eq_comm]
    constructor
    · exact fun below => ⟨below.1, below.2.2⟩
    · exact fun back => ⟨back.1, (resolve_climbs back.1).symm, back.2⟩
  | false =>
    have relative : (resolve path).absolute = false := (resolve_absolute path).trans absolute
    rw [resolve_pathIn absolute, ReturnsTo, relative, if_neg Bool.false_ne_true, Below,
      ← properPrefix_take_append]
    simp only [followedBy, true_and]
    refine and_congr_left fun _ => ?_
    cases (resolve directory).absolute
    · simp only [Bool.false_eq_true, if_false, false_or]
      omega
    · simp

/-- The last piece of a text ends as the text does. -/
theorem exists_last_piece (mark : Char → Bool) {ending : List Char}
    (free : ∀ c ∈ ending, mark c = false) (text : List Char) :
    ∃ front last, pieces mark (text ++ ending) = front ++ [last ++ ending] := by
  induction text with
  | nil => exact ⟨[], [], pieces_eq_singleton free⟩
  | cons c text ih =>
    obtain ⟨front, last, cut⟩ := ih
    rw [List.cons_append, pieces, cut]
    split
    · exact ⟨[] :: front, last, rfl⟩
    · cases front with
      | nil => exact ⟨[], c :: last, rfl⟩
      | cons first more => exact ⟨(c :: first) :: more, last, rfl⟩

theorem enter_of_long (long : 2 < name.length) (path : ResolvedPath) :
    path.enter name = { path with names := path.names ++ [name] } := by
  rw [enter, if_neg, if_neg]
  · rintro rfl
    exact absurd long (by decide)
  · rintro (rfl | rfl) <;> exact absurd long (by decide)

theorem ne_slash_of_free {text : List Char} (free : '/' ∉ text) : ∀ c ∈ text, (c == '/') = false :=
  fun _ member => beq_false_of_ne fun same => free (same ▸ member)

theorem resolve_names_ne_nil (table : String) : (resolve (table ++ ".csv")).names ≠ [] := by
  have free : '/' ∉ ".csv".toList := by decide
  obtain ⟨front, last, cut⟩ :=
    exists_last_piece (· == '/') (ne_slash_of_free free) table.toList
  have long : 2 < (last ++ ".csv".toList).length := by
    rw [List.length_append]
    exact Nat.lt_add_left _ (by decide)
  rw [resolve, String.toList_append, cut, List.foldl_append, List.foldl_cons, List.foldl_nil,
    enter_of_long long]
  exact List.append_ne_nil_of_right_ne_nil _ (List.cons_ne_nil _ _)

end ResolvedPath

open ResolvedPath

theorem Directory.tablePath_below {table : String} (free : '/' ∉ table.toList)
    (directory : Directory) :
    (resolve (directory.tablePath table)).Below (resolve directory.path) := by
  have ending : '/' ∉ ".csv".toList := by decide
  have unmarked : '/' ∉ (table ++ ".csv").toList := by
    rw [String.toList_append, List.mem_append, not_or]
    exact ⟨free, ending⟩
  have relative : (table ++ ".csv").startsWith "/" = false := by
    rw [startsWith_slash]
    exact beq_false_of_ne fun slash => unmarked (List.mem_of_mem_head? slash)
  have long : 2 < (table ++ ".csv").toList.length := by
    rw [String.toList_append, List.length_append]
    exact Nat.lt_add_left _ (by decide)
  have single : resolve (table ++ ".csv") = ⟨false, 0, [(table ++ ".csv").toList]⟩ := by
    rw [resolve, pieces_eq_singleton (ne_slash_of_free unmarked), relative, List.foldl_cons, List.foldl_nil,
      enter_of_long long]
    rfl
  rw [tablePath, below_pathIn_iff, single]
  simp [ReturnsTo, ProperPrefix]

def Directory.Confines (directory : Directory) : Prop :=
  ∀ text request, Request.ofText text = .ok request →
    ∀ table ∈ request.table :: (request.join.map Join.table).toList,
      (resolve (directory.tablePath table)).Below (resolve directory.path)

def pinsOf (table : String) : Request where
  fields := ["pin"]
  table := table
  conditions := []
  join := none
  groupBy := none
  orderBy := none
  ungroupedAggregate := false

theorem ofText_climbing : Request.ofText "SELECT pin FROM ../secret" = .ok (pinsOf "../secret") := by
  decide +kernel

theorem Directory.confines_iff (directory : Directory) :
    directory.Confines ↔ resolve directory.path = start true := by
  constructor
  · intro confines
    -- One query is enough: it climbs once, which stays below the root only.
    have below := confines _ _ ofText_climbing "../secret" List.mem_cons_self
    have file : resolve ("../secret" ++ ".csv") = ⟨false, 1, ["secret.csv".toList]⟩ := by
      decide +kernel
    rw [tablePath, below_pathIn_iff, file, ReturnsTo, if_neg Bool.false_ne_true] at below
    obtain ⟨reaches, front, other⟩ := below
    have bare : (resolve directory.path).names = [] := by
      by_contra named
      have filled := List.length_pos_of_ne_nil named
      have single : ((resolve directory.path).names.drop
          ((resolve directory.path).names.length - 1)).length = 1 := by
        rw [List.length_drop]
        omega
      exact other (front.eq_of_length single)
    have rooted : (resolve directory.path).absolute = true := by
      rw [bare] at reaches
      exact reaches.resolve_right (by decide)
    calc
      resolve directory.path = ⟨(resolve directory.path).absolute, (resolve directory.path).climbs,
          (resolve directory.path).names⟩ := rfl
      _ = start true := by rw [rooted, resolve_climbs rooted, bare, start]
  · intro root text request read table named
    -- There is nowhere to climb to from the root, and a file has a name.
    have filled := resolve_names_ne_nil table
    rw [tablePath, below_pathIn_iff, ReturnsTo, root]
    split <;> simp [start, ProperPrefix, filled.symm]

/-- The file of a table that an accepted query names stands below the directory exactly if the
table's name returns to it; so only the root holds the tables of all queries. -/
theorem Directory.tablePath_below_iff (directory : Directory) :
    (∀ text request, Request.ofText text = .ok request →
      ∀ table ∈ request.table :: (request.join.map Join.table).toList,
        IsName table ∧ ((resolve (directory.tablePath table)).Below (resolve directory.path) ↔
          (resolve (table ++ ".csv")).ReturnsTo (resolve directory.path))) ∧
      (directory.Confines ↔ resolve directory.path = start true) := by
  refine ⟨fun text request read table named => ⟨?_, below_pathIn_iff _ _⟩, directory.confines_iff⟩
  have wellFormed := Request.wellFormed_of_ofChars read
  rw [List.mem_cons, Option.mem_toList, Option.map_eq_some_iff] at named
  rcases named with rfl | ⟨join, joined, rfl⟩
  · exact wellFormed.table
  · exact (wellFormed.join join joined).table

theorem Directory.tablePath_below_iff_of_returning_name :
    let directory : Directory := ⟨"srv/data", false⟩
    Request.ofText "SELECT pin FROM ../data/people" = .ok (pinsOf "../data/people") ∧
      IsName "../data/people" ∧
      (resolve (directory.tablePath "../data/people")).Below (resolve directory.path) := by
  intro directory
  have read : Request.ofText "SELECT pin FROM ../data/people" = .ok (pinsOf "../data/people") := by
    decide +kernel
  obtain ⟨name, iff⟩ := directory.tablePath_below_iff.1 _ _ read "../data/people" List.mem_cons_self
  exact ⟨read, name, iff.2 (by decide +kernel)⟩

theorem Directory.tablePath_of_outer_names :
    let directory : Directory := ⟨"data", false⟩
    Request.ofText "SELECT pin FROM ../secret" = .ok (pinsOf "../secret") ∧
      directory.tablePath "../secret" = "data/../secret.csv" ∧
      ¬(resolve (directory.tablePath "../secret")).Below (resolve directory.path) ∧
      Request.ofText "SELECT pin FROM /secret" = .ok (pinsOf "/secret") ∧
      directory.tablePath "/secret" = "/secret.csv" ∧
      ¬(resolve (directory.tablePath "/secret")).Below (resolve directory.path) := by
  decide +kernel

end TableQuery.Csv
