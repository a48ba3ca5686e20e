import Mathlib.Data.List.Induction
import Mathlib.Logic.Function.Basic
import TidyCsv.Proofs.Storage.Tidying

/-! # Shared sets of registered paths

Clones of a handle share one set. Whatever is called through which of them, a set holds no path
twice, and it holds what has been registered since it was last cleaned up. -/

namespace TidyCsv

namespace TempFiles

variable {temps : TempFiles}

/-! ## Registering -/

/-- No two registered paths have the same components. -/
def Distinct (temps : TempFiles) : Prop := temps.paths.Pairwise fun p q => p.same q = false

theorem Distinct.empty : TempFiles.empty.Distinct := .nil

theorem Distinct.register (h : temps.Distinct) (p : Path) : (temps.register p).Distinct := by
  unfold Distinct TempFiles.register
  split
  · exact h
  · next hnew =>
      refine List.pairwise_append.mpr ⟨h, List.pairwise_singleton _ p, fun q hq last hlast => ?_⟩
      obtain rfl : last = p := by simpa using hlast
      simpa using fun hsame => hnew (List.any_eq_true.mpr ⟨q, hq, hsame⟩)

theorem mem_of_mem_register {p q : Path} (h : q ∈ (temps.register p).paths) :
    q ∈ temps.paths ∨ q = p := by
  have hin : q ∈ temps.paths ∨ q ∈ [p] := FileSystem.mem_of_mem_foldl_register h
  simpa using hin

theorem mem_register_of_mem {p q : Path} (h : q ∈ temps.paths) : q ∈ (temps.register p).paths := by
  unfold TempFiles.register
  split
  · exact h
  · exact List.mem_append_left [p] h

theorem mem_foldl_register_of_mem {paths : List Path} {q : Path} (h : q ∈ temps.paths) :
    q ∈ (paths.foldl TempFiles.register temps).paths := by
  induction paths generalizing temps with
  | nil => exact h
  | cons first rest ih => exact ih (mem_register_of_mem h)

/-- A path that is registered stands in the set, or one with the same components does. -/
theorem exists_same_register (temps : TempFiles) (p : Path) :
    ∃ q ∈ (temps.register p).paths, q.same p = true := by
  unfold TempFiles.register
  split
  · next hold => simpa using hold
  · exact ⟨p, by simp, by simp [Path.same]⟩

theorem exists_same_foldl_register {paths : List Path} {p : Path} (h : p ∈ paths) :
    ∃ q ∈ (paths.foldl TempFiles.register temps).paths, q.same p = true := by
  induction paths generalizing temps with
  | nil => simp at h
  | cons first rest ih =>
      rw [List.foldl_cons]
      rcases List.mem_cons.mp h with rfl | hrest
      · obtain ⟨q, hq, hsame⟩ := exists_same_register temps p
        exact ⟨q, mem_foldl_register_of_mem hq, hsame⟩
      · exact ih hrest

/-! ## Calls -/

/-- A call through a handle of a set. -/
inductive Call (Handle : Type) where
  | register (handle : Handle) (p : Path)
  | cleanup (handle : Handle)

variable {Handle Identity : Type} (setOf : Handle → Identity)

/-- A path has been registered in a set after the set was last cleaned up, if it ever was. -/
def RegisteredSince (calls : List (Call Handle)) (set : Identity) (p : Path) : Prop :=
  ∃ earlier handle later, calls = earlier ++ .register handle p :: later ∧ setOf handle = set ∧
    ∀ other, .cleanup other ∈ later → setOf other ≠ set

variable {setOf} {calls : List (Call Handle)} {set : Identity} {p : Path}

private theorem append_singleton_split {α : Type} {xs before after : List α} {last x : α}
    (h : xs ++ [last] = before ++ x :: after) :
    after = [] ∧ xs = before ∧ last = x ∨
      ∃ front, after = front ++ [last] ∧ xs = before ++ x :: front := by
  rcases List.eq_nil_or_concat after with rfl | ⟨front, final, rfl⟩
  · obtain ⟨hxs, hlast⟩ := List.append_inj' h rfl
    exact .inl ⟨rfl, hxs, by simpa using hlast⟩
  · rw [List.concat_eq_append, ← List.cons_append, ← List.append_assoc] at h
    obtain ⟨hxs, hlast⟩ := List.append_inj' h rfl
    obtain rfl : last = final := by simpa using hlast
    exact .inr ⟨front, List.concat_eq_append, hxs⟩

theorem registeredSince_nil : ¬ RegisteredSince setOf [] set p := by
  rintro ⟨earlier, handle, later, hcalls, -⟩
  simp at hcalls

theorem registeredSince_append_register {handle : Handle} {q : Path} :
    RegisteredSince setOf (calls ++ [.register handle q]) set p ↔
      RegisteredSince setOf calls set p ∨ setOf handle = set ∧ q = p := by
  constructor
  · rintro ⟨earlier, found, later, hcalls, hset, hlater⟩
    rcases append_singleton_split hcalls with ⟨-, -, hlast⟩ | ⟨front, rfl, hfront⟩
    · obtain ⟨rfl, rfl⟩ : handle = found ∧ q = p := by simpa using hlast
      exact .inr ⟨hset, rfl⟩
    · exact .inl ⟨earlier, found, front, hfront, hset, fun other hother =>
        hlater other (by simp [hother])⟩
  · rintro (⟨earlier, found, later, rfl, hset, hlater⟩ | ⟨hset, rfl⟩)
    · refine ⟨earlier, found, later ++ [.register handle q], by simp, hset, fun other hother => ?_⟩
      exact hlater other (by simpa using hother)
    · exact ⟨calls, handle, [], rfl, hset, by simp⟩

theorem registeredSince_append_cleanup {handle : Handle} :
    RegisteredSince setOf (calls ++ [.cleanup handle]) set p ↔
      setOf handle ≠ set ∧ RegisteredSince setOf calls set p := by
  constructor
  · rintro ⟨earlier, found, later, hcalls, hset, hlater⟩
    rcases append_singleton_split hcalls with ⟨-, -, hlast⟩ | ⟨front, rfl, hfront⟩
    · simp at hlast
    · exact ⟨hlater handle (by simp), earlier, found, front, hfront, hset, fun other hother =>
        hlater other (by simp [hother])⟩
  · rintro ⟨hother, earlier, found, later, rfl, hset, hlater⟩
    refine ⟨earlier, found, later ++ [.cleanup handle], by simp, hset, fun other hin => ?_⟩
    rcases List.mem_append.mp hin with hin | hin
    · exact hlater other hin
    · obtain rfl : other = handle := by simpa using hin
      exact hother

/-! ## The sets after calls -/

variable [DecidableEq Identity] (setOf)

/-- The sets after a call. -/
def Call.apply (sets : Identity → TempFiles) : Call Handle → Identity → TempFiles
  | register handle p => Function.update sets (setOf handle) ((sets (setOf handle)).register p)
  | cleanup handle => Function.update sets (setOf handle) .empty

/-- The sets after calls, if all of them were empty before. -/
def setsAfter (calls : List (Call Handle)) : Identity → TempFiles :=
  calls.foldl (Call.apply setOf) fun _ => .empty

variable {setOf}

theorem setsAfter_append_register {handle : Handle} :
    setsAfter setOf (calls ++ [.register handle p]) set =
      if setOf handle = set then (setsAfter setOf calls set).register p
      else setsAfter setOf calls set := by
  by_cases hset : setOf handle = set
  · subst hset
    simp [setsAfter, Call.apply]
  · simp [setsAfter, Call.apply, hset, Ne.symm hset]

theorem setsAfter_append_cleanup {handle : Handle} :
    setsAfter setOf (calls ++ [.cleanup handle]) set =
      if setOf handle = set then .empty else setsAfter setOf calls set := by
  by_cases hset : setOf handle = set
  · subst hset
    simp [setsAfter, Call.apply]
  · simp [setsAfter, Call.apply, hset, Ne.symm hset]

theorem distinct_setsAfter (calls : List (Call Handle)) (set : Identity) :
    (setsAfter setOf calls set).Distinct := by
  induction calls using List.reverseRecOn with
  | nil => exact .empty
  | append_singleton calls call ih =>
      cases call with
      | register handle p =>
          rw [setsAfter_append_register]
          split
          · exact ih.register p
          · exact ih
      | cleanup handle =>
          rw [setsAfter_append_cleanup]
          split
          · exact .empty
          · exact ih

/-- What a set holds has been registered since it was last cleaned up. -/
theorem registeredSince_of_mem (h : p ∈ (setsAfter setOf calls set).paths) :
    RegisteredSince setOf calls set p := by
  induction calls using List.reverseRecOn with
  | nil => simp [setsAfter, empty] at h
  | append_singleton calls call ih =>
      cases call with
      | register handle q =>
          rw [setsAfter_append_register] at h
          rw [registeredSince_append_register]
          split at h
          · next hset =>
              rcases mem_of_mem_register h with hold | rfl
              · exact .inl (ih hold)
              · exact .inr ⟨hset, rfl⟩
          · exact .inl (ih h)
      | cleanup handle =>
          rw [setsAfter_append_cleanup] at h
          rw [registeredSince_append_cleanup]
          split at h
          · simp [empty] at h
          · next hset => exact ⟨hset, ih h⟩

/-- What has been registered since the last cleanup is held, up to the writing of the path. -/
theorem exists_same_of_registeredSince (h : RegisteredSince setOf calls set p) :
    ∃ q ∈ (setsAfter setOf calls set).paths, q.same p = true := by
  induction calls using List.reverseRecOn with
  | nil => exact absurd h registeredSince_nil
  | append_singleton calls call ih =>
      cases call with
      | register handle q =>
          rw [setsAfter_append_register]
          rcases registeredSince_append_register.mp h with hold | ⟨hset, rfl⟩
          · obtain ⟨found, hfound, hsame⟩ := ih hold
            split
            · exact ⟨found, mem_register_of_mem hfound, hsame⟩
            · exact ⟨found, hfound, hsame⟩
          · rw [if_pos hset]
            exact exists_same_register (setsAfter setOf calls set) q
      | cleanup handle =>
          obtain ⟨hset, hold⟩ := registeredSince_append_cleanup.mp h
          rw [setsAfter_append_cleanup, if_neg hset]
          exact ih hold

/-- A set holds what calls have registered in it since it was last cleaned up, and no path twice;
cleaning up removes nothing else. -/
structure Tracks (setOf : Handle → Identity) (calls : List (Call Handle)) (set : Identity)
    (temps : TempFiles) : Prop where
  distinct : temps.Distinct
  registered : ∀ p ∈ temps.paths, RegisteredSince setOf calls set p
  held : ∀ p, RegisteredSince setOf calls set p → ∃ q ∈ temps.paths, q.same p = true
  sweep_edits : ∀ fs : FileSystem,
    FileSystem.EditsFiles
      (fun location => ∃ p, RegisteredSince setOf calls set p ∧ p.location fs.home = location)
      fs (temps.sweep fs)

theorem tracks_setsAfter (calls : List (Call Handle)) (set : Identity) :
    Tracks setOf calls set (setsAfter setOf calls set) where
  distinct := distinct_setsAfter calls set
  registered _ := registeredSince_of_mem
  held _ := exists_same_of_registeredSince
  sweep_edits _ := .sweep fun p hp => ⟨p, registeredSince_of_mem hp, rfl⟩

end TempFiles

end TidyCsv
