import Mathlib.Data.List.Nodup
import Mathlib.Data.List.Perm.Subperm
import Mathlib.Data.Nat.Init
import TidyCsv.Proofs.Header.Name

/-!
# Telling the names of a header apart

A name that an earlier column has gives way to the same name with a two after it, then with a three,
and so on. Only as many numbers can be in use as there are earlier columns, so this search comes to
an end, at the least number that is free. The names of a header are then all different.
-/

namespace TidyCsv.Header

variable {taken other : List String} {name candidate result : String} {next k : Nat}

/-! ## The search for a free name -/

/-- The search for a free name: a candidate that is taken gives way to the one with the next
number. -/
inductive Search (taken : List String) (name : String) : String → Nat → String → Prop where
  | found {candidate : String} {next : Nat} (hfree : candidate ∉ taken) :
      Search taken name candidate next candidate
  | more {candidate result : String} {next : Nat} (htaken : candidate ∈ taken)
      (hrest : Search taken name (numbered name next) (next + 1) result) :
      Search taken name candidate next result

/-- The name itself if it is free, and otherwise the name with the least free number from two on. -/
inductive Chosen (taken : List String) (name : String) : String → Prop where
  | plain (hfree : name ∉ taken) : Chosen taken name name
  | withNumber (k : Nat) (htaken : name ∈ taken) (hk : 2 ≤ k) (hfree : numbered name k ∉ taken)
      (hleast : ∀ j, 2 ≤ j → j < k → numbered name j ∈ taken) : Chosen taken name (numbered name k)

theorem Search.not_mem (h : Search taken name candidate next result) : result ∉ taken := by
  induction h with
  | found hfree => exact hfree
  | more _ _ ih => exact ih

theorem search_numbered (hfree : numbered name k ∉ taken) {i : Nat} (hi : i ≤ k)
    (hleast : ∀ j, i ≤ j → j < k → numbered name j ∈ taken) :
    Search taken name (numbered name i) (i + 1) (numbered name k) := by
  induction hi using Nat.decreasingInduction with
  | self => exact .found hfree
  | of_succ i hi ih =>
    exact .more (hleast i (Nat.le_refl i) hi) (ih fun j hj => hleast j (Nat.le_of_succ_le hj))

theorem Chosen.search (h : Chosen taken name result) : Search taken name name 2 result := by
  cases h with
  | plain hfree => exact .found hfree
  | withNumber k htaken hk hfree hleast => exact .more htaken (search_numbered hfree hk hleast)

theorem Chosen.congr (hsame : ∀ x, x ∈ taken ↔ x ∈ other) (h : Chosen taken name result) :
    Chosen other name result := by
  cases h with
  | plain hfree => exact .plain (mt (hsame name).mpr hfree)
  | withNumber k htaken hk hfree hleast =>
    exact .withNumber k ((hsame name).mp htaken) hk (mt (hsame _).mpr hfree)
      fun j hj hjk => (hsame _).mp (hleast j hj hjk)

/-! ## There is a free number -/

theorem numbered_injective (name : String) : Function.Injective (numbered name) := by
  intro m n h
  have hlist := congrArg String.toList h
  simp only [numbered, String.toList_append] at hlist
  have hdigits : toString m = toString n := String.toList_inj.mp (List.append_cancel_left hlist)
  have hvalue := congrArg (fun s : String => Nat.ofDigitChars 10 s.toList 0) hdigits
  simpa [Nat.toString_eq_ofList_toDigits] using hvalue

/-- More numbers are tried than names are taken, so one of them is free. -/
theorem exists_numbered_not_mem (taken : List String) (name : String) :
    ∃ n < taken.length + 1, numbered name (n + 2) ∉ taken := by
  by_contra hnone
  push Not at hnone
  have hnodup : ((List.range (taken.length + 1)).map fun n => numbered name (n + 2)).Nodup :=
    List.nodup_range.map ((numbered_injective name).comp fun _ _ => Nat.add_right_cancel)
  have hsubset : (List.range (taken.length + 1)).map (fun n => numbered name (n + 2)) ⊆ taken := by
    intro x hx
    obtain ⟨n, hn, rfl⟩ := List.mem_map.mp hx
    exact hnone n (List.mem_range.mp hn)
  have hlength := (hnodup.subperm hsubset).length_le
  rw [List.length_map, List.length_range] at hlength
  omega

theorem chosen_firstFree (taken : List String) (name : String) :
    Chosen taken name (firstFree taken name) := by
  by_cases hname : name ∈ taken
  · obtain ⟨n, hn, hfree⟩ := exists_numbered_not_mem taken name
    simp only [firstFree, List.contains_iff_mem, if_pos hname]
    cases hfind : (List.range (taken.length + 1)).find? fun n =>
        !taken.contains (numbered name (n + 2)) with
    | none =>
      -- the free number is among those that are tried
      have hused := List.find?_eq_none.mp hfind n (List.mem_range.mpr hn)
      exact absurd (by simpa using hused) hfree
    | some m =>
      obtain ⟨hm, -, hbefore⟩ := List.find?_range_eq_some.mp hfind
      refine .withNumber (m + 2) hname (Nat.le_add_left 2 m) (by simpa using hm) ?_
      intro j hj hjm
      obtain ⟨i, rfl⟩ := Nat.exists_eq_add_of_le' hj
      simpa using hbefore i (by omega)
  · have hplain : firstFree taken name = name := by simp [firstFree, hname]
    rw [hplain]
    exact .plain hname

/-! ## The names of a header -/

theorem nodup_distinctFrom (names : List String) (htaken : taken.Nodup) :
    (distinctFrom taken names).Nodup := by
  induction names generalizing taken with
  | nil => exact List.nodup_reverse.mpr htaken
  | cons name rest ih =>
    have hfree := (chosen_firstFree taken name).search.not_mem
    exact ih (List.nodup_cons.mpr ⟨hfree, htaken⟩)

/-- Each name is chosen beside those before it. -/
theorem chosen_distinctFrom (taken names : List String) {i : Nat} (h : names[i]? = some name) :
    ∃ result, (distinctFrom taken names)[taken.length + i]? = some result ∧
      Chosen ((distinctFrom taken names).take (taken.length + i)) name result := by
  induction names generalizing taken i with
  | nil => simp at h
  | cons first rest ih =>
    cases i with
    | zero =>
      obtain rfl : first = name := by simpa using h
      obtain ⟨tail, htail⟩ := prefix_distinctFrom (firstFree taken first :: taken) rest
      have hout : distinctFrom taken (first :: rest) =
          taken.reverse ++ firstFree taken first :: tail := by
        rw [distinctFrom, ← htail, List.reverse_cons, List.append_assoc, List.singleton_append]
      refine ⟨firstFree taken first, by simp [hout], ?_⟩
      refine (chosen_firstFree taken first).congr fun x => ?_
      simp [hout]
    | succ i =>
      have hrest := ih (firstFree taken first :: taken) (i := i) (by simpa using h)
      rwa [List.length_cons, Nat.add_right_comm, Nat.add_assoc] at hrest

/-- A header in normal form has as many names as before and no two alike. Each is the normal form
of the name at its place, unless an earlier column has that, and otherwise the normal form with the
least number from two on that no earlier column has, which the search for a free name arrives at. -/
theorem normalizeAll_distinct (names : List String) :
    (normalizeAll names).length = names.length ∧ (normalizeAll names).Nodup ∧
      ∀ i name, names[i]? = some name →
        ∃ result, (normalizeAll names)[i]? = some result ∧
          Search ((normalizeAll names).take i) (normalizeName name) (normalizeName name) 2 result ∧
          Chosen ((normalizeAll names).take i) (normalizeName name) result := by
  refine ⟨length_normalizeAll names, nodup_distinctFrom _ List.nodup_nil, fun i name h => ?_⟩
  have hname : (names.map normalizeName)[i]? = some (normalizeName name) := by simp [h]
  obtain ⟨result, hresult, hchosen⟩ := chosen_distinctFrom [] (names.map normalizeName) hname
  rw [List.length_nil, Nat.zero_add] at hresult hchosen
  exact ⟨result, hresult, hchosen.search, hchosen⟩

/-- The last column has a name of its own that looks like one with a number, which is in use. -/
theorem normalizeAll_colliding :
    normalizeAll ["Name", "name", "NAME", "name_2"] = ["name", "name_2", "name_3", "name_2_2"] ∧
      ["Name", "name", "NAME", "name_2"][3]? = some "name_2" ∧
      Chosen ["name", "name_2", "name_3"] (normalizeName "name_2") "name_2_2" := by
  have hall : normalizeAll ["Name", "name", "NAME", "name_2"] =
      ["name", "name_2", "name_3", "name_2_2"] := by decide +kernel
  have hlast : ["Name", "name", "NAME", "name_2"][3]? = some "name_2" := rfl
  obtain ⟨result, hresult, -, hchosen⟩ := (normalizeAll_distinct _).2.2 3 "name_2" hlast
  rw [hall] at hresult hchosen
  obtain rfl : result = "name_2_2" := by simpa [eq_comm] using hresult
  exact ⟨hall, hlast, hchosen⟩

end TidyCsv.Header
