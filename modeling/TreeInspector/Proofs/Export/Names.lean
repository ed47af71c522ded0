import Mathlib.Data.Set.Card
import TreeInspector.Export.Target
import TreeInspector.Proofs.Storage.Disk

/-! # Free names of a series

The names of a series are different, so of finitely many that are taken the search for a free one comes to
an end: it looks at the taken names that stand before the first free one, then at this one, and never needs
a larger number than there are taken names. On a disk every numbered path that leads anywhere passes an
entry of its own, which is why a disk with so many entries has a free path within so many numbers.
-/

namespace TreeInspector

namespace Disk

/-- A search that gets as far as the first free number gives this number. -/
theorem firstFree_eq {taken : Nat → Bool} {more start free : Nat} (above : start ≤ free)
    (below : free ≤ start + more) (isFree : taken free = false)
    (earlier : ∀ other, start ≤ other → other < free → taken other = true) :
    firstFree taken more start = free := by
  induction more generalizing start with
  | zero => exact Nat.le_antisymm above below
  | succ more ih =>
    rw [firstFree]
    rcases Nat.eq_or_lt_of_le above with rfl | behind
    · rw [isFree]
      rfl
    · rw [if_pos (earlier start (Nat.le_refl _) behind)]
      exact ih behind (by omega) fun other later => earlier other (Nat.le_of_succ_le later)

/-! ## Walks with a common beginning -/

section Walks

variable {disk : Disk}

/-- A walk along some names and what follows them: it stops among these names, or goes on with what follows
from where they lead. -/
def Passes (disk : Disk) (walk : Place → List String → Except Refusal Place) : Prop :=
  ∀ here names, (∃ refusal, ∀ name rest, walk here (names ++ name :: rest) = .error refusal) ∨
    ∃ links there, ∀ rest, walk here (names ++ rest) = disk.walk links there rest

theorem passes_walkNames {follow : Place → List String → Except Refusal Place} (passes : disk.Passes follow)
    (links : Nat) (same : disk.walk links = disk.walkNames follow) : disk.Passes (disk.walkNames follow) := by
  intro here names
  induction names generalizing here with
  | nil => exact .inr ⟨links, here, fun rest => by rw [same]; rfl⟩
  | cons first names ih =>
    simp only [List.cons_append, walkNames]
    split_ifs with directory idle up long
    · exact .inl ⟨.notDirectory, fun _ _ => rfl⟩
    · exact ih here
    · exact ih here.dropLast
    · exact .inl ⟨.nameTooLong, fun _ _ => rfl⟩
    · cases disk.get? (here ++ [first]) with
      | none => exact .inl ⟨.notFound, fun _ _ => rfl⟩
      | some entry =>
        cases entry with
        | directory => exact ih (here ++ [first])
        | file content => exact ih (here ++ [first])
        | link target =>
          simp only
          split_ifs
          · exact .inl ⟨.notFound, fun _ _ => rfl⟩
          all_goals
            simp only [← List.append_assoc]
            exact passes _ _

theorem passes_walk (disk : Disk) (links : Nat) : disk.Passes (disk.walk links) := by
  induction links with
  | zero => exact passes_walkNames (fun _ _ => .inl ⟨.tooManyLinks, fun _ _ => rfl⟩) 0 rfl
  | succ links ih => exact passes_walkNames ih (links + 1) rfl

/-- A walk does not get past a name under which nothing stands. -/
theorem mem_entries_of_walk {links : Nat} {here place : Place} {name : String} {rest : List String}
    (named : Path.isIdle name = false) (below : name ≠ "..")
    (reached : disk.walk links here (name :: rest) = .ok place) :
    here ++ [name] ∈ disk.entries.map Prod.fst := by
  obtain ⟨follow, same⟩ : ∃ follow, disk.walk links = disk.walkNames follow := by
    cases links with
    | zero => exact ⟨_, rfl⟩
    | succ links => exact ⟨_, rfl⟩
  rw [same, walkNames, named, if_neg Bool.false_ne_true, if_neg below] at reached
  cases found : disk.get? (here ++ [name]) with
  | none =>
    rw [found] at reached
    split_ifs at reached
  | some entry =>
    rw [get?_eq_lookup (by simp)] at found
    obtain ⟨before, after, split, _⟩ := List.lookup_eq_some_iff.mp found
    exact List.mem_map.mpr ⟨_, split ▸ List.mem_append_right before List.mem_cons_self, rfl⟩

/-- A path that leads anywhere is walked to its end. -/
theorem exists_walk_of_has {path : String} (leads : disk.has path = true) :
    ∃ place, disk.walk linkLimit (disk.start path) (Path.names path) = .ok place := by
  rw [has] at leads
  split at leads
  · next place located =>
    obtain ⟨_, _, walked⟩ := bind_eq_ok_iff.mp located
    exact ⟨place, walked⟩
  · cases leads

end Walks

end Disk

namespace Export

/-! ## The names of a series -/

/-- What the names of a series have between their base and the dot. -/
def mark : Nat → List Char
  | 0 => []
  | number + 1 => '_' :: Nat.toDigits 10 (number + 1)

theorem injective_mark : mark.Injective := by
  intro first second same
  cases first with
  | zero =>
    cases second with
    | zero => rfl
    | succ second => cases same
  | succ first =>
    cases second with
    | zero => cases same
    | succ second =>
      have digits := congrArg (Nat.ofDigitChars 10 · 0) (List.cons.inj same).2
      simpa only [Nat.ofDigitChars_ten_toDigits] using digits

theorem slash_notMem_mark (number : Nat) : '/' ∉ mark number := by
  cases number with
  | zero => exact List.not_mem_nil
  | succ number =>
    intro member
    rcases List.mem_cons.mp member with same | digit
    · exact absurd same (by decide)
    · exact absurd (Nat.isDigit_of_mem_toDigits (by decide) (by decide) digit) (by decide)

section Series

variable (folder base extension : String)

/-- The paths of a series in a folder. -/
def series (number : Nat) : String := Path.join folder (candidate base extension number)

theorem toList_candidate (number : Nat) :
    (candidate base extension number).toList = base.toList ++ (mark number ++ '.' :: extension.toList) := by
  cases number with
  | zero => simp [candidate, mark]
  | succ number => simp [candidate, mark, Nat.toList_repr]

/-- A folder puts the same text in front of all paths that start at the root, and of all that do not. -/
theorem exists_toList_join (rooted : Bool) : ∃ front, ∀ path, Path.isAbsolute path = rooted →
    (Path.join folder path).toList = front ++ path.toList := by
  cases rooted with
  | true => exact ⟨[], fun path absolute => by rw [Path.join, if_pos absolute, List.nil_append]⟩
  | false =>
    have inside (path : String) (relative : Path.isAbsolute path = false) : Path.join folder path = _ :=
      if_neg (Bool.eq_false_iff.mp relative)
    cases ends : folder.toList.getLast? with
    | none => exact ⟨[], fun path relative => by rw [inside path relative, ends, List.nil_append]⟩
    | some last =>
      by_cases slash : last = '/'
      · refine ⟨folder.toList, fun path relative => ?_⟩
        simp only [inside path relative, ends, if_pos slash, String.toList_append]
      · refine ⟨folder.toList ++ "/".toList, fun path relative => ?_⟩
        simp only [inside path relative, ends, if_neg slash, String.toList_append]

/-- All paths of a series start with the same text. -/
theorem exists_toList_series : ∃ front, ∀ number,
    (series folder base extension number).toList = front ++ (mark number ++ '.' :: extension.toList) := by
  have absolute (number : Nat) : Path.isAbsolute (candidate base extension number) = Path.isAbsolute base := by
    rw [Path.isAbsolute, Path.isAbsolute, toList_candidate]
    cases base.toList with
    | nil => cases number <;> rfl
    | cons c rest => rfl
  obtain ⟨front, joined⟩ := exists_toList_join folder (Path.isAbsolute base)
  refine ⟨front ++ base.toList, fun number => ?_⟩
  rw [series, joined _ (absolute number), toList_candidate, List.append_assoc]

theorem injective_series : (series folder base extension).Injective := by
  obtain ⟨front, written⟩ := exists_toList_series folder base extension
  intro first second same
  have texts := congrArg String.toList same
  rw [written, written] at texts
  exact injective_mark (List.append_cancel_right (List.append_cancel_left texts))

/-! ## Paths of a series on a disk -/

/-- Each numbered path that leads anywhere on a disk passes an entry of its own. -/
theorem exists_key (disk : Disk) : ∃ key : Nat → Place, key.Injective ∧ ∀ number,
    disk.has (series folder base extension (number + 1)) = true → key number ∈ disk.entries.map Prod.fst := by
  obtain ⟨front, written⟩ := exists_toList_series folder base extension
  obtain ⟨before, last, begins⟩ := exists_last_piece '/' front
  obtain ⟨next, after, goesOn⟩ := List.exists_cons_of_ne_nil (pieces_ne_nil '/' ('.' :: extension.toList))
  let name (number : Nat) : String := String.ofList (last ++ (mark (number + 1) ++ next))
  have different : name.Injective := by
    intro first second same
    have marks := List.append_cancel_right (List.append_cancel_left (String.ofList_injective same))
    exact Nat.succ.inj (injective_mark marks)
  have names (number : Nat) : Path.names (series folder base extension (number + 1)) =
      before.map String.ofList ++ name number :: after.map String.ofList := by
    have whole : pieces '/' (mark (number + 1)) = [] ++ [mark (number + 1)] :=
      pieces_of_not_mem (slash_notMem_mark _)
    rw [Path.names, written, pieces_glue begins (pieces_glue whole goesOn), List.map_append, List.map_cons]
  have starts (number : Nat) : disk.start (series folder base extension (number + 1)) =
      if front.head? == some '/' then [] else disk.workingDirectory := by
    rw [Disk.start, Path.isAbsolute, written]
    cases front with
    | nil => rfl
    | cons c rest => rfl
  have proper (number : Nat) {other : String} (plain : '_' ∉ other.toList) : name number ≠ other := by
    rintro rfl
    exact plain (by simp [name, mark])
  -- The walk along the names in front of the number is the same for all paths.
  rcases disk.passes_walk Disk.linkLimit (if front.head? == some '/' then [] else disk.workingDirectory)
    (before.map String.ofList) with ⟨refusal, stops⟩ | ⟨links, there, leads⟩
  · refine ⟨fun number => [name number], fun _ _ same => different (List.cons.inj same).1, fun number has => ?_⟩
    obtain ⟨place, walked⟩ := Disk.exists_walk_of_has has
    rw [starts, names, stops] at walked
    cases walked
  · refine ⟨fun number => there ++ [name number],
      fun _ _ same => different (List.cons.inj (List.append_cancel_left same)).1, fun number has => ?_⟩
    obtain ⟨place, walked⟩ := Disk.exists_walk_of_has has
    rw [starts, names, leads] at walked
    refine Disk.mem_entries_of_walk ?_ (proper number (by decide)) walked
    rw [Path.isIdle, Bool.or_eq_false_iff, beq_eq_false_iff_ne, beq_eq_false_iff_ne]
    exact ⟨proper number (by decide), proper number (by decide)⟩

/-! ## Taken paths -/

/-- The paths of a series that are taken. -/
def takenPaths (taken : String → Bool) : Set String :=
  {path ∈ Set.range (series folder base extension) | taken path = true}

/-- On a disk only so many paths of a series are taken as there are entries, and perhaps the one without
a number. -/
theorem takenPaths_disk (disk : Disk) : (takenPaths folder base extension disk.has).Finite ∧
    (takenPaths folder base extension disk.has).ncard ≤ disk.entries.length + 1 := by
  obtain ⟨key, different, passes⟩ := exists_key folder base extension disk
  let numbers : Set Nat := {number | key number ∈ disk.entries.map Prod.fst}
  have among : Set.image key numbers ⊆ (disk.entries.map Prod.fst).toFinset := by
    rintro _ ⟨number, member, rfl⟩
    exact List.mem_toFinset.mpr member
  have finite : numbers.Finite :=
    (Set.Finite.subset (Finset.finite_toSet _) among).of_finite_image different.injOn
  have few : numbers.ncard ≤ disk.entries.length := by
    rw [← Set.ncard_image_of_injective numbers different]
    refine (Set.ncard_le_ncard among (Finset.finite_toSet _)).trans ?_
    rw [Set.ncard_coe_finset]
    exact (List.toFinset_card_le _).trans_eq (List.length_map _)
  have covered : takenPaths folder base extension disk.has ⊆
      insert (series folder base extension 0)
        (Set.image (fun number => series folder base extension (number + 1)) numbers) := by
    rintro _ ⟨⟨number, rfl⟩, leads⟩
    cases number with
    | zero => exact .inl rfl
    | succ number => exact .inr ⟨number, passes number leads, rfl⟩
  have bounded := (finite.image fun number => series folder base extension (number + 1)).insert
    (series folder base extension 0)
  refine ⟨bounded.subset covered, (Set.ncard_le_ncard covered bounded).trans ?_⟩
  exact (Set.ncard_insert_le _ _).trans (Nat.succ_le_succ ((Set.ncard_image_le finite).trans few))

end Series

/-! ## The search -/

/-- A look at a path, with the number to go on with if the path is taken. -/
structure Look (κ : Type) where
  path : String
  counter : κ

/-- Looks at paths until one is free: from a look on the search goes through these looks, and the last of
them is at the free path. A search that does not end goes through no list of looks. -/
inductive Search {κ : Type} (taken : String → Bool) (next : Look κ → Look κ) : Look κ → List (Look κ) → Prop
  | ends {look : Look κ} (free : taken look.path = false) : Search taken next look [look]
  | goesOn {look : Look κ} {looks : List (Look κ)} (isTaken : taken look.path = true)
    (later : Search taken next (next look) looks) : Search taken next look (look :: looks)

/-- A search goes only one way. -/
theorem Search.unique {κ : Type} {taken : String → Bool} {next : Look κ → Look κ} {look : Look κ}
    {looks others : List (Look κ)} (search : Search taken next look looks)
    (other : Search taken next look others) : looks = others := by
  induction search generalizing others with
  | ends free =>
    cases other with
    | ends _ => rfl
    | goesOn isTaken _ => cases free.symm.trans isTaken
  | goesOn isTaken _ ih =>
    cases other with
    | ends free => cases free.symm.trans isTaken
    | goesOn _ later => rw [ih later]

/-- What a search finds is free. -/
theorem Search.free_last {κ : Type} {taken : String → Bool} {next : Look κ → Look κ} {look last : Look κ}
    {looks : List (Look κ)} (search : Search taken next look looks) (found : looks.getLast? = some last) :
    taken last.path = false := by
  induction search with
  | ends free =>
    cases found
    exact free
  | goesOn _ later ih =>
    refine ih ?_
    cases later with
    | ends _ => exact found
    | goesOn _ _ => exact found

/-- A search that goes through some looks and finds the last of them free ends there. -/
theorem search_of_free {κ : Type} {taken : String → Bool} {next : Look κ → Look κ} {look : Nat → Look κ}
    (start more : Nat) (free : taken (look (start + more)).path = false)
    (earlier : ∀ number, start ≤ number → number < start + more →
      taken (look number).path = true ∧ next (look number) = look (number + 1)) :
    Search taken next (look start) ((List.range' start (more + 1)).map look) := by
  induction more generalizing start with
  | zero => exact .ends free
  | succ more ih =>
    obtain ⟨isTaken, continues⟩ := earlier start (Nat.le_refl _) (by omega)
    have found := ih (start + 1) (by rwa [Nat.add_right_comm, Nat.add_assoc])
      fun number above below => earlier number (by omega) (by omega)
    rw [← continues] at found
    exact .goesOn isTaken found

section Searches

variable (folder base extension : String)

/-- The path that a number is written into. -/
def numbered (number : Nat) : String :=
  Path.join folder (base ++ "_" ++ Nat.repr number ++ "." ++ extension)

/-- The next look: at the path with the number of the counter, which goes on to the next number. -/
def Look.next {κ : Type} [Add κ] [OfNat κ 1] (value : κ → Nat) (look : Look κ) : Look κ :=
  ⟨numbered folder base extension (value look.counter), look.counter + 1⟩

/-- The first look, at the path without a number. -/
def Look.first (κ : Type) [OfNat κ 1] : Look κ := ⟨series folder base extension 0, 1⟩

/-- Paths that are found one after the other, with something created at each of them before the next search. -/
inductive Reserves : (String → Bool) → List String → Prop
  | none (taken : String → Bool) : Reserves taken []
  | more {taken : String → Bool} {looks : List (Look Nat)} {last : Look Nat} {paths : List String}
    (search : Search taken (Look.next folder base extension id) (Look.first folder base extension Nat) looks)
    (found : looks.getLast? = some last) (later : Reserves (fun path => path == last.path || taken path) paths) :
    Reserves taken (last.path :: paths)

/-- What is known of a search that ends at the path with a number. -/
structure Searches (taken : String → Bool) (number : Nat) : Prop where
  free : taken (series folder base extension number) = false
  earlier : ∀ other < number, taken (series folder base extension other) = true
  /-- The search looks at these paths in order and ends. -/
  looks : ∀ looks, Search taken (Look.next folder base extension id) (Look.first folder base extension Nat) looks ↔
    looks = (List.range (number + 1)).map fun other => ⟨series folder base extension other, other + 1⟩
  /-- There is at most one look more than there are taken paths. -/
  few : (List.range (number + 1)).length ≤ (takenPaths folder base extension taken).ncard + 1
  /-- A counter of 64 bits does as well: no number that is written into a path is too large for it. -/
  word : (takenPaths folder base extension taken).ncard < 2 ^ 64 →
    (∀ looks, Search taken (Look.next folder base extension UInt64.toNat) (Look.first folder base extension UInt64)
        looks ↔
      looks = (List.range (number + 1)).map fun other =>
        ⟨series folder base extension other, UInt64.ofNat (other + 1)⟩) ∧
    ∀ other < number, (UInt64.ofNat (other + 1)).toNat = other + 1
  /-- A search with a bound that is large enough finds the same path. -/
  bounded : ∀ bound ≥ number, freePath taken bound folder base extension = series folder base extension number

variable {folder base extension} {taken : String → Bool} {number : Nat}
  (free : taken (series folder base extension number) = false)
  (earlier : ∀ other < number, taken (series folder base extension other) = true)

include earlier in
theorem le_ncard (finite : (takenPaths folder base extension taken).Finite) :
    number ≤ (takenPaths folder base extension taken).ncard := by
  have among : Set.image (series folder base extension) (Finset.range number) ⊆
      takenPaths folder base extension taken := by
    rintro _ ⟨other, below, rfl⟩
    exact ⟨⟨other, rfl⟩, earlier other (Finset.mem_range.mp below)⟩
  calc number = (Finset.range number : Set Nat).ncard := by rw [Set.ncard_coe_finset, Finset.card_range]
    _ = (Set.image (series folder base extension) (Finset.range number)).ncard :=
      (Set.ncard_image_of_injective _ (injective_series ..)).symm
    _ ≤ _ := Set.ncard_le_ncard among finite

include free earlier in
/-- The search with a counter that counts right up to the free path. -/
theorem search_series {κ : Type} [Add κ] [OfNat κ 1] {value : κ → Nat} {counter : Nat → κ} (one : counter 0 = 1)
    (counts : ∀ other < number, counter other + 1 = counter (other + 1) ∧ value (counter other) = other + 1) :
    ∀ looks, Search taken (Look.next folder base extension value) (Look.first folder base extension κ) looks ↔
      looks = (List.range (number + 1)).map fun other => ⟨series folder base extension other, counter other⟩ := by
  have first : Look.first folder base extension κ = ⟨series folder base extension 0, counter 0⟩ := by
    rw [Look.first, one]
  have search : Search taken (Look.next folder base extension value) ⟨series folder base extension 0, counter 0⟩
      ((List.range (number + 1)).map fun other => ⟨series folder base extension other, counter other⟩) := by
    rw [List.range_eq_range']
    refine @search_of_free κ taken (Look.next folder base extension value)
      (fun other => ⟨series folder base extension other, counter other⟩) 0 number ?_ fun other _ below => ?_
    · rwa [Nat.zero_add]
    · rw [Nat.zero_add] at below
      obtain ⟨goesOn, right⟩ := counts other below
      refine ⟨earlier other below, ?_⟩
      rw [Look.next, goesOn, right]
      rfl
  rw [first]
  exact fun looks => ⟨fun other => other.unique search, fun same => same ▸ search⟩

include free earlier in
theorem searches (finite : (takenPaths folder base extension taken).Finite) :
    Searches folder base extension taken number where
  free := free
  earlier := earlier
  looks := search_series free earlier rfl fun _ _ => ⟨rfl, rfl⟩
  few := by
    rw [List.length_range]
    exact Nat.succ_le_succ (le_ncard earlier finite)
  word := by
    intro small
    have fits : ∀ other < number, (UInt64.ofNat (other + 1)).toNat = other + 1 := by
      intro other below
      have bound := le_ncard earlier finite
      exact UInt64.toNat_ofNat_of_lt (by rw [UInt64.size]; omega)
    refine ⟨search_series free earlier rfl fun other below => ⟨?_, fits other below⟩, fits⟩
    rw [UInt64.ofNat_add (other + 1) 1]
    rfl
  bounded := by
    intro bound large
    refine congrArg (series folder base extension) (Disk.firstFree_eq (Nat.zero_le _) ?_ free ?_)
    · rwa [Nat.zero_add]
    · exact fun other _ below => earlier other below

variable (folder base extension) in
/-- Of finitely many taken paths the search finds its way out. -/
theorem exists_searches (finite : (takenPaths folder base extension taken).Finite) :
    ∃ number, Searches folder base extension taken number := by
  have some_free : ∃ number, taken (series folder base extension number) = false := by
    by_contra none_free
    refine Set.infinite_range_of_injective (injective_series folder base extension) (finite.subset ?_)
    rintro _ ⟨number, rfl⟩
    exact ⟨⟨number, rfl⟩, by simpa using not_exists.mp none_free number⟩
  refine ⟨Nat.find some_free, searches (Nat.find_spec some_free) (fun other below => ?_) finite⟩
  simpa using Nat.find_min some_free below

/-- Searching again and again, with something created at each path that was found, always goes on. -/
theorem exists_reserves (finite : (takenPaths folder base extension taken).Finite) (count : Nat) :
    ∃ paths, Reserves folder base extension taken paths ∧ paths.length = count := by
  induction count generalizing taken with
  | zero => exact ⟨[], .none taken, rfl⟩
  | succ count ih =>
    obtain ⟨number, found⟩ := exists_searches folder base extension finite
    let path := series folder base extension number
    have created : (takenPaths folder base extension fun other => other == path || taken other).Finite := by
      refine (finite.insert path).subset ?_
      rintro other ⟨among, isTaken⟩
      rcases Bool.or_eq_true_iff.mp isTaken with same | before
      · exact .inl (beq_iff_eq.mp same)
      · exact .inr ⟨among, before⟩
    obtain ⟨paths, later, length⟩ := ih created
    have last : ((List.range (number + 1)).map fun other =>
        (⟨series folder base extension other, other + 1⟩ : Look Nat)).getLast? = some ⟨path, number + 1⟩ := by
      simp [List.range_succ, path]
    exact ⟨path :: paths, .more ((found.looks _).mpr rfl) last later, congrArg Nat.succ length⟩

/-- Searching again and again never gives a path twice, nor one that was taken from the start. -/
theorem Reserves.nodup {paths : List String} (reserves : Reserves folder base extension taken paths) :
    paths.Nodup ∧ ∀ path ∈ paths, taken path = false := by
  induction reserves with
  | none taken => exact ⟨.nil, fun _ member => nomatch member⟩
  | more search found _ ih =>
    obtain ⟨distinct, free⟩ := ih
    refine ⟨List.nodup_cons.mpr ⟨fun member => by simpa using free _ member, distinct⟩, ?_⟩
    intro other member
    rcases List.mem_cons.mp member with rfl | later
    · exact search.free_last found
    · exact (Bool.or_eq_false_iff.mp (free other later)).2

variable (folder base extension) in
/-- The free path on a disk is the first one of its series at which nothing exists. -/
theorem exists_nextFree (disk : Disk) : ∃ number ≤ disk.entries.length + 1,
    Searches folder base extension disk.has number ∧
      nextFree disk folder base extension = series folder base extension number := by
  obtain ⟨finite, few⟩ := takenPaths_disk folder base extension disk
  obtain ⟨number, found⟩ := exists_searches folder base extension finite
  have bound : number ≤ disk.entries.length + 1 := (le_ncard found.earlier finite).trans few
  exact ⟨number, bound, found, found.bounded _ bound⟩

variable (folder base extension) in
/-- On disks that keep all that exists, a path at which something was created is not offered again. -/
theorem injective_nextFree {disks : Nat → Disk}
    (keeps : ∀ turn path, (disks turn).has path = true → (disks (turn + 1)).has path = true)
    (creates : ∀ turn, (disks (turn + 1)).has (nextFree (disks turn) folder base extension) = true) :
    Function.Injective fun turn => nextFree (disks turn) folder base extension := by
  have stays {first second : Nat} (later : first < second) :
      (disks second).has (nextFree (disks first) folder base extension) = true := by
    induction later with
    | refl => exact creates first
    | step _ ih => exact keeps _ _ ih
  have differs {first second : Nat} (later : first < second) :
      nextFree (disks first) folder base extension ≠ nextFree (disks second) folder base extension := by
    intro same
    obtain ⟨_, _, found, offered⟩ := exists_nextFree folder base extension (disks second)
    have isFree := found.free
    rw [← offered, ← same, stays later] at isFree
    cases isFree
  intro first second same
  rcases Nat.lt_trichotomy first second with before | rfl | behind
  · exact absurd same (differs before)
  · rfl
  · exact absurd same.symm (differs behind)

end Searches

/-- The search for a free path. The paths of a series are different. Whatever paths exist, as long as they are
finitely many, the search ends at the first path of the series that does not exist, and searching again
after creating what was found never gives a path twice. On every disk the path offered is this one, and
never one at which something was created after it had been offered. -/
theorem nextFree_first_free (folder base extension : String) :
    (series folder base extension).Injective ∧
    (∀ taken : String → Bool, {path | taken path = true}.Finite →
      (∃ number, Searches folder base extension taken number) ∧
      (∀ count, ∃ paths, Reserves folder base extension taken paths ∧ paths.length = count) ∧
      ∀ paths, Reserves folder base extension taken paths → paths.Nodup ∧ ∀ path ∈ paths, taken path = false) ∧
    (∀ disk : Disk, ∃ number ≤ disk.entries.length + 1, Searches folder base extension disk.has number ∧
      nextFree disk folder base extension = series folder base extension number) ∧
    ∀ disks : Nat → Disk,
      (∀ turn path, (disks turn).has path = true → (disks (turn + 1)).has path = true) →
      (∀ turn, (disks (turn + 1)).has (nextFree (disks turn) folder base extension) = true) →
      Function.Injective fun turn => nextFree (disks turn) folder base extension := by
  refine ⟨injective_series .., fun taken finite => ?_, exists_nextFree folder base extension,
    fun disks keeps creates => injective_nextFree folder base extension keeps creates⟩
  have few : (takenPaths folder base extension taken).Finite := finite.subset fun _ member => member.2
  exact ⟨exists_searches folder base extension few, exists_reserves few, fun _ reserves => reserves.nodup⟩

/-- Some paths of a series exist, with a gap among them. -/
def gappedSeries (path : String) : Bool := ["d/x.png", "d/x_1.png", "d/x_3.png"].contains path

theorem nextFree_first_free_gapped :
    {path | gappedSeries path = true}.Finite ∧ Searches "d" "x" "png" gappedSeries 2 := by
  have finite : {path | gappedSeries path = true}.Finite :=
    (List.finite_toSet ["d/x.png", "d/x_1.png", "d/x_3.png"]).subset fun path member =>
      List.contains_iff_mem.mp member
  obtain ⟨⟨number, found⟩, _⟩ := (nextFree_first_free "d" "x" "png").2.1 gappedSeries finite
  have gap : gappedSeries (series "d" "x" "png" 2) = false := by decide +kernel
  have before : ∀ other < 2, gappedSeries (series "d" "x" "png" other) = true := by decide +kernel
  rcases Nat.lt_trichotomy number 2 with below | rfl | above
  · exact absurd (before number below) (by simp [found.free])
  · exact ⟨finite, found⟩
  · exact absurd (found.earlier 2 above) (by simp [gap])

end Export

end TreeInspector
