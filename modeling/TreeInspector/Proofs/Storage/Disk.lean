import Mathlib.Data.Finset.Card
import Mathlib.Data.List.Basic
import Mathlib.Tactic.Common
import TreeInspector.Proofs.Results
import TreeInspector.Storage.Disk

/-! # Laws of the disk

A disk is a map from places to entries: putting an entry changes one place, and taking an entry away
that was put at a free place gives the disk back as it was. The name of a temporary file is free. A
file that stands beside the target of a move does not matter to where the move leads, since no walk
goes through a file.
-/

namespace TreeInspector

namespace Disk

/-! ## Entries by place -/

section Entries

variable {disk : Disk} {place other : Place}

theorem ne_nil_of_get? (absent : disk.get? place = none) : place ≠ [] := by
  rintro rfl
  cases absent

theorem get?_eq_lookup (below : place ≠ []) : disk.get? place = disk.entries.lookup place := by
  rw [get?, if_neg (by simpa using below)]

theorem get?_put_self (below : place ≠ []) (entry : Entry) :
    (disk.put place entry).get? place = some entry := by
  rw [get?_eq_lookup below]
  exact List.lookup_cons_self

theorem get?_remove_of_ne (differs : other ≠ place) : (disk.remove place).get? other = disk.get? other := by
  unfold get? remove
  rw [lookup_filter disk.entries (· != place) (bne_iff_ne.mpr differs)]

theorem get?_put_of_ne (differs : other ≠ place) (entry : Entry) :
    (disk.put place entry).get? other = disk.get? other := by
  have elsewhere : (other == place) = false := by simpa using differs
  rw [← @get?_remove_of_ne disk place other differs]
  simp only [get?, put, List.lookup_cons, elsewhere]

/-- Only one place changes when an entry is put there. -/
theorem get?_put (below : place ≠ []) (entry : Entry) :
    (disk.put place entry).get? other = if other = place then some entry else disk.get? other := by
  split_ifs with same
  · rw [same, get?_put_self below]
  · exact get?_put_of_ne same entry

theorem remove_of_absent (absent : disk.get? place = none) : disk.remove place = disk := by
  have missing := absent
  rw [get?_eq_lookup (ne_nil_of_get? absent), List.lookup_eq_none_iff] at missing
  have kept : (disk.entries.filter fun entry => entry.1 != place) = disk.entries := by
    refine List.filter_eq_self.mpr fun entry member => ?_
    rw [bne_comm]
    exact missing entry member
  rw [remove, kept]

/-- Taking away what was put at a free place gives the disk back. -/
theorem remove_put (absent : disk.get? place = none) (entry : Entry) :
    (disk.put place entry).remove place = disk := by
  have gone : (disk.put place entry).remove place = (disk.remove place).remove place := by
    simp [remove, put]
  rw [gone, remove_of_absent absent, remove_of_absent absent]

theorem put_put (first second : Entry) : (disk.put place first).put place second = disk.put place second := by
  simp [put, remove]

end Entries

/-! ## Free names -/

/-- A search that meets a free number ends at one. -/
theorem firstFree_free {taken : Nat → Bool} {more number free : Nat} (above : number ≤ free)
    (below : free < number + more) (isFree : taken free = false) :
    taken (firstFree taken more number) = false := by
  induction more generalizing number with
  | zero => omega
  | succ more ih =>
    rw [firstFree]
    split_ifs with isTaken
    · have differs : number ≠ free := by
        rintro rfl
        rw [isTaken] at isFree
        cases isFree
      exact ih (by omega) (by omega)
    · exact Bool.eq_false_iff.mpr isTaken

/-- Of more different keys than a list is long, one is not in the list. -/
theorem exists_notMem {α : Type} [DecidableEq α] {key : Nat → α} (different : key.Injective) (keys : List α) :
    ∃ number < keys.length + 1, key number ∉ keys := by
  have larger : keys.toFinset.card < ((Finset.range (keys.length + 1)).image key).card := by
    rw [Finset.card_image_of_injective _ different, Finset.card_range]
    exact Nat.lt_succ_of_le keys.toFinset_card_le
  obtain ⟨_, among, missing⟩ := Finset.exists_mem_notMem_of_card_lt_card larger
  obtain ⟨number, bound, rfl⟩ := Finset.mem_image.mp among
  exact ⟨number, Finset.mem_range.mp bound, fun member => missing (List.mem_toFinset.mpr member)⟩

theorem injective_temporaryName : temporaryName.Injective := by
  have decoded (number : Nat) :
      Nat.ofDigitChars 10 ((temporaryName number).toList.drop 4) 0 = number := by
    have behind : (temporaryName number).toList.drop 4 =
        List.replicate (6 - (Nat.repr number).length) '0' ++ Nat.toDigits 10 number := by
      simp only [temporaryName, String.toList_append, String.toList_ofList, Nat.toList_repr]
      rfl
    have padding (count : Nat) : Nat.ofDigitChars 10 (List.replicate count '0') 0 = 0 := by
      induction count with
      | zero => rfl
      | succ count ih =>
        rw [List.replicate_succ, Nat.ofDigitChars_cons]
        exact ih
    rw [behind, Nat.ofDigitChars_append, padding, Nat.ofDigitChars_ten_toDigits]
  intro first second same
  rw [← decoded first, same, decoded]

/-- Nothing stands under the name of a new temporary file. -/
theorem get?_freshName (disk : Disk) (folder : Place) :
    disk.get? (folder ++ [disk.freshName folder]) = none := by
  have different : Function.Injective fun number => folder ++ [temporaryName number] := by
    intro first second same
    exact injective_temporaryName (List.cons.inj (List.append_cancel_left same)).1
  obtain ⟨free, bound, missing⟩ := exists_notMem different (disk.entries.map Prod.fst)
  rw [List.length_map] at bound
  have isFree : (disk.get? (folder ++ [temporaryName free])).isSome = false := by
    rw [get?_eq_lookup (by simp), Option.isSome_eq_false_iff, Option.isNone_iff_eq_none,
      List.lookup_eq_none_iff]
    intro entry member
    simp only [bne_iff_ne, ne_eq]
    exact fun same => missing (same ▸ List.mem_map_of_mem member)
  have found := @firstFree_free (fun number => (disk.get? (folder ++ [temporaryName number])).isSome) _ 0 _
    (Nat.zero_le free) (by rw [Nat.zero_add]; exact bound) isFree
  rwa [Option.isSome_eq_false_iff, Option.isNone_iff_eq_none] at found

/-! ## Walks past a file -/

section Walks

variable {disk : Disk} {place target : Place} (absent : disk.get? place = none) (content : Content)
include absent

theorem get?_put_directory_iff {here : Place} :
    (disk.put place (.file content)).get? here = some .directory ↔ disk.get? here = some .directory := by
  rw [get?_put (ne_nil_of_get? absent)]
  split_ifs with same
  · rw [same, absent]
    simp
  · rfl

/-- A walk that starts at a new file ends there. -/
theorem eq_of_walkNames_put {follow : Place → List String → Except Refusal Place} {names : List String}
    (reached : (disk.put place (.file content)).walkNames follow place names = .ok target) :
    target = place := by
  cases names with
  | nil => exact (Except.ok.inj reached).symm
  | cons name rest =>
    rw [walkNames, get?_put_self (ne_nil_of_get? absent), if_pos (by simp)] at reached
    cases reached

/-- A walk that does not end at a new file is the same with it. -/
theorem walkNames_put_iff {follow following : Place → List String → Except Refusal Place}
    (apart : target ≠ place)
    (alike : ∀ here names, following here names = .ok target ↔ follow here names = .ok target)
    (here : Place) (names : List String) :
    (disk.put place (.file content)).walkNames following here names = .ok target ↔
      disk.walkNames follow here names = .ok target := by
  induction names generalizing here with
  | nil => rfl
  | cons name rest ih =>
    simp only [walkNames, ne_eq, get?_put_directory_iff absent content]
    split_ifs with directory idle up long
    · exact ih here
    · exact ih here.dropLast
    · rfl
    · by_cases same : here ++ [name] = place
      · rw [same, get?_put_self (ne_nil_of_get? absent), absent]
        simp only [reduceCtorEq, iff_false]
        exact fun reached => apart (eq_of_walkNames_put absent content reached)
      · rw [get?_put_of_ne same]
        cases disk.get? (here ++ [name]) with
        | none => rfl
        | some entry =>
          cases entry with
          | directory => exact ih (here ++ [name])
          | file _ => exact ih (here ++ [name])
          | link text =>
            simp only
            split_ifs
            · rfl
            · exact alike _ _
            · exact alike _ _
    · rfl

theorem walk_put_iff (apart : target ≠ place) (links : Nat) (here : Place) (names : List String) :
    (disk.put place (.file content)).walk links here names = .ok target ↔
      disk.walk links here names = .ok target := by
  induction links generalizing here names with
  | zero => exact walkNames_put_iff absent content apart (fun _ _ => Iff.rfl) here names
  | succ links ih => exact walkNames_put_iff absent content apart ih here names

/-- A move leads to the same place with a new file, and also if it is this file that moves. -/
theorem moveTarget_put_iff (path : String) :
    (disk.put place (.file content)).moveTarget path = .ok target ↔ disk.moveTarget path = .ok target := by
  simp only [moveTarget, bind_eq_ok_iff]
  refine exists_congr fun _ => and_congr_right fun _ => exists_congr fun folder => ?_
  by_cases directory : disk.get? folder = some .directory
  · have apart : folder ≠ place := by
      rintro rfl
      rw [absent] at directory
      cases directory
    simp only [ne_eq, get?_put_directory_iff absent content]
    exact and_congr_left fun _ => walk_put_iff absent content apart linkLimit _ _
  · simp [get?_put_directory_iff absent content, directory]

end Walks

theorem ne_nil_of_moveTarget {disk : Disk} {path : String} {place : Place}
    (leads : disk.moveTarget path = .ok place) : place ≠ [] := by
  simp only [moveTarget, bind_eq_ok_iff] at leads
  obtain ⟨_, _, folder, _, leads⟩ := leads
  split at leads
  · cases leads
  · split at leads
    · cases leads
    · split_ifs at leads
      rw [← Except.ok.inj leads]
      simp

end Disk

end TreeInspector
