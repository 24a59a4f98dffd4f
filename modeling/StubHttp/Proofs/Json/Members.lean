import Mathlib.Data.List.Induction
import Mathlib.Data.String.Basic
import StubHttp.Json.Value

/-!
# Members in the order of their names

Sorting members changes nothing that a look-up by name can tell, if of several
members with one name the last is meant (`lookup_sortMembers`). What comes out
is sorted, each name occurring once (`sorted_sortMembers`), and members that
are sorted already stay as they are (`sortMembers_of_sorted`).

The members come in one after the other, so the inductions are on the member
that came last.
-/

namespace StubHttp.Json

abbrev Members := List (String × Value)

/-- In the order of their names, each name at most once. -/
def Sorted (members : Members) : Prop :=
  members.Pairwise (·.1 < ·.1)

/-! ## One member -/

theorem lookup_member (k n : String) (v : Value) (members : Members) :
    ((n, v) :: members).lookup k = if k = n then some v else members.lookup k := by
  rw [List.lookup_cons]
  by_cases hk : k = n
  · rw [if_pos hk, beq_iff_eq.mpr hk]
  · rw [if_neg hk, beq_eq_false_iff_ne.mpr hk]

theorem lookup_insertMember (name k : String) (v : Value) : ∀ members : Members,
    (insertMember name v members).lookup k = if k = name then some v else members.lookup k
  | [] => lookup_member k name v []
  | (n, w) :: rest => by
      rw [insertMember]
      split_ifs with hname hk hlt hk hk
      · rw [lookup_member, if_pos hk]
      · rw [lookup_member, if_neg hk, lookup_member, if_neg (hname ▸ hk)]
      · rw [lookup_member, if_pos hk]
      · rw [lookup_member, if_neg hk]
      · rw [lookup_member, if_neg (hk ▸ hname), lookup_insertMember, if_pos hk]
      · rw [lookup_member, lookup_insertMember, if_neg hk, lookup_member]

theorem mem_insertMember {name : String} {v : Value} {m : String × Value} : ∀ {members : Members},
    m ∈ insertMember name v members → m = (name, v) ∨ m ∈ members
  | [], h => .inl (List.mem_singleton.mp h)
  | (n, w) :: rest, h => by
      rw [insertMember] at h
      split_ifs at h
      · exact (List.mem_cons.mp h).imp_right (List.mem_cons_of_mem _)
      · exact List.mem_cons.mp h
      · rcases List.mem_cons.mp h with rfl | h
        · exact .inr List.mem_cons_self
        · exact (mem_insertMember h).imp_right (List.mem_cons_of_mem _)

theorem sorted_insertMember (name : String) (v : Value) : ∀ {members : Members},
    Sorted members → Sorted (insertMember name v members)
  | [], _ => List.pairwise_singleton ..
  | (n, w) :: rest, h => by
      obtain ⟨hfirst, hrest⟩ := List.pairwise_cons.mp h
      rw [insertMember]
      split_ifs with hname hlt
      · exact List.pairwise_cons.mpr ⟨hname ▸ hfirst, hrest⟩
      · refine List.pairwise_cons.mpr ⟨List.forall_mem_cons.mpr ⟨hlt, fun m hm => ?_⟩, h⟩
        exact lt_trans hlt (hfirst m hm)
      · refine List.pairwise_cons.mpr ⟨fun m hm => ?_, sorted_insertMember name v hrest⟩
        rcases mem_insertMember hm with rfl | hm
        · exact lt_of_le_of_ne (not_lt.mp hlt) (Ne.symm hname)
        · exact hfirst m hm

/-- A member whose name comes after all others is put at the end. -/
theorem insertMember_of_lt {name : String} {v : Value} : ∀ {members : Members},
    (∀ m ∈ members, m.1 < name) → insertMember name v members = members ++ [(name, v)]
  | [], _ => rfl
  | (n, w) :: rest, h => by
      obtain ⟨hn, hrest⟩ := List.forall_mem_cons.mp h
      rw [insertMember, if_neg (ne_of_gt hn), if_neg (lt_asymm hn), insertMember_of_lt hrest,
        List.cons_append]

/-! ## All members -/

theorem sortMembers_concat (members : Members) (m : String × Value) :
    sortMembers (members ++ [m]) = insertMember m.1 m.2 (sortMembers members) := by
  rw [sortMembers, List.foldl_concat, sortMembers]

/-- The last member of a name is the one that is found. -/
theorem lookup_sortMembers (members : Members) (k : String) :
    (sortMembers members).lookup k = members.reverse.lookup k := by
  induction members using List.reverseRecOn with
  | nil => rfl
  | append_singleton members m ih =>
      rw [sortMembers_concat, lookup_insertMember, ih, List.reverse_concat, lookup_member]

theorem mem_of_mem_sortMembers {members : Members} {m : String × Value}
    (h : m ∈ sortMembers members) : m ∈ members := by
  induction members using List.reverseRecOn with
  | nil => exact h
  | append_singleton members m' ih =>
      rw [sortMembers_concat] at h
      rcases mem_insertMember h with rfl | h
      · exact List.mem_append_right _ (List.mem_singleton.mpr rfl)
      · exact List.mem_append_left _ (ih h)

theorem sorted_sortMembers (members : Members) : Sorted (sortMembers members) := by
  induction members using List.reverseRecOn with
  | nil => exact List.Pairwise.nil
  | append_singleton members m ih =>
      rw [sortMembers_concat]
      exact sorted_insertMember m.1 m.2 ih

theorem sortMembers_of_sorted {members : Members} (h : Sorted members) :
    sortMembers members = members := by
  induction members using List.reverseRecOn with
  | nil => rfl
  | append_singleton members m ih =>
      obtain ⟨hmembers, -, hlast⟩ := List.pairwise_append.mp h
      rw [sortMembers_concat, ih hmembers]
      exact insertMember_of_lt fun m' hm' => hlast m' hm' m (List.mem_singleton.mpr rfl)

/-- If no name occurs twice, the last member of a name is the first. -/
theorem lookup_reverse {members : Members} (h : (members.map (·.1)).Nodup) (k : String) :
    members.reverse.lookup k = members.lookup k := by
  induction members with
  | nil => rfl
  | cons m members ih =>
      obtain ⟨hfirst, hrest⟩ := List.nodup_cons.mp h
      rw [List.reverse_cons, List.lookup_append, ih hrest, lookup_member, lookup_member]
      by_cases hk : k = m.1
      · have hnone : members.lookup k = none := by
          refine List.lookup_eq_none_iff.mpr fun m' hm' => bne_iff_ne.mpr fun heq => ?_
          exact hfirst (List.mem_map.mpr ⟨m', hm', by rw [← heq, hk]⟩)
        rw [hnone, if_pos hk, if_pos hk, Option.none_or]
      · rw [if_neg hk, if_neg hk, List.lookup_nil, Option.or_none]

end StubHttp.Json
