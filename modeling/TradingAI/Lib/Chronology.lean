import Mathlib.Data.List.Induction
import Mathlib.Data.List.Sort

/-!
# `Lib.Chronology` — logs that are read back by their stamps

A log is a list of entries in the order they were written: keys and numbers grow along it. It is read back
sorted by a stamp, and by the key where stamps are equal. The order read is the order written exactly when no
stamp is before an earlier one, and then the newest entry by stamp is the last one written.
-/

namespace Chronology

variable {α τ : Type} [LinearOrder τ] {stamp : α → τ} {key number : α → ℕ} {log : List α}

/-- `ORDER BY stamp, key`. -/
def ByStamp (stamp : α → τ) (key : α → ℕ) (a b : α) : Prop :=
  stamp a < stamp b ∨ stamp a = stamp b ∧ key a ≤ key b

instance : Std.Total (ByStamp stamp key) where
  total a b := by
    rcases lt_trichotomy (stamp a) (stamp b) with h | h | h
    · exact .inl (.inl h)
    · rcases Nat.le_total (key a) (key b) with hk | hk
      · exact .inl (.inr ⟨h, hk⟩)
      · exact .inr (.inr ⟨h.symm, hk⟩)
    · exact .inr (.inl h)

instance : IsTrans α (ByStamp stamp key) where
  trans a b c hab hbc := by
    rcases hab with hab | ⟨hab, hkab⟩
    · rcases hbc with hbc | ⟨hbc, -⟩
      · exact .inl (hab.trans hbc)
      · exact .inl (hab.trans_eq hbc)
    · rcases hbc with hbc | ⟨hbc, hkbc⟩
      · exact .inl (hab.trans_lt hbc)
      · exact .inr ⟨hab.trans hbc, hkab.trans hkbc⟩

theorem ByStamp.key_eq {a b : α} (hab : ByStamp stamp key a b) (hba : ByStamp stamp key b a) :
    key a = key b := by
  rcases hab with hlt | ⟨heq, hle⟩
  · rcases hba with hlt' | ⟨heq', -⟩
    · exact (lt_asymm hlt hlt').elim
    · exact (hlt.ne' heq').elim
  · rcases hba with hlt' | ⟨-, hle'⟩
    · exact (hlt'.ne' heq).elim
    · exact Nat.le_antisymm hle hle'

/-- No stamp is before an earlier one. -/
def Ascending (stamp : α → τ) (log : List α) : Prop := log.Pairwise fun a b => stamp a ≤ stamp b

theorem Ascending.append_singleton {a : α} :
    Ascending stamp (log ++ [a]) ↔ Ascending stamp log ∧ ∀ b ∈ log, stamp b ≤ stamp a := by
  simp [Ascending, List.pairwise_append]

/-- Where keys grow, only the stamps can disagree with the order written. -/
theorem pairwise_byStamp_iff (hkeys : log.Pairwise fun a b => key a < key b) :
    log.Pairwise (ByStamp stamp key) ↔ Ascending stamp log := by
  constructor
  · intro h
    refine h.imp fun {a b} hab => ?_
    rcases hab with hlt | ⟨heq, -⟩
    · exact hlt.le
    · exact heq.le
  · intro h
    refine (h.and hkeys).imp fun {a b} hab => ?_
    rcases hab.1.lt_or_eq with hlt | heq
    · exact .inl hlt
    · exact .inr ⟨heq, hab.2.le⟩

/-- Entries with one key are one entry. -/
theorem eq_of_key_eq (hkeys : log.Pairwise fun a b => key a < key b) {a b : α} (ha : a ∈ log) (hb : b ∈ log)
    (h : key a = key b) : a = b := by
  have hnodup : (log.map key).Nodup := List.pairwise_map.mpr (hkeys.imp ne_of_lt)
  exact List.inj_on_of_nodup_map hnodup ha hb h

/-- Two lists of the same entries, both with growing numbers, are the same. -/
theorem eq_of_growing {l l' : List α} (hperm : l.Perm l') (h : l.Pairwise fun a b => number a < number b)
    (h' : l'.Pairwise fun a b => number a < number b) : l = l' :=
  hperm.eq_of_pairwise (fun a b _ _ hab hba => by omega) h h'

/-- The last entry has the largest number. -/
theorem le_number_last (number : α → ℕ) (hnumbers : log.Pairwise fun a b => number a < number b) {a : α} (ha : a ∈ log) :
    ∃ l ∈ log.getLast?, number a ≤ number l := by
  induction log using List.reverseRecOn with
  | nil => cases ha
  | append_singleton log l _ =>
      refine ⟨l, by simp, ?_⟩
      rcases List.mem_append.mp ha with ha | ha
      · exact ((List.pairwise_append.mp hnumbers).2.2 a ha l (List.mem_singleton_self l)).le
      · rw [List.mem_singleton.mp ha]

section
variable {_ : DecidableRel (ByStamp stamp key)}

theorem sort_eq (hkeys : log.Pairwise fun a b => key a < key b) (h : Ascending stamp log) :
    log.insertionSort (ByStamp stamp key) = log :=
  ((pairwise_byStamp_iff hkeys).mpr h).insertionSort_eq

/-- **Read-back order**: sorted by stamp the numbers still grow exactly when the stamps are in order. -/
theorem numbers_grow_iff (hkeys : log.Pairwise fun a b => key a < key b)
    (hnumbers : log.Pairwise fun a b => number a < number b) :
    ((log.insertionSort (ByStamp stamp key)).map number).Pairwise (· < ·) ↔ Ascending stamp log := by
  rw [List.pairwise_map]
  constructor
  · intro h
    have hsame := eq_of_growing (List.perm_insertionSort _ log) h hnumbers
    rw [← pairwise_byStamp_iff hkeys, ← hsame]
    exact List.pairwise_insertionSort _ _
  · intro h
    rw [sort_eq hkeys h]
    exact hnumbers

end

/-- **Newest first**: if the stamps are in order, the first entry by descending stamp is the last one written. -/
theorem head?_newest_first {_ : DecidableRel fun a b => ByStamp stamp key b a}
    (hkeys : log.Pairwise fun a b => key a < key b) (h : Ascending stamp log) :
    (log.insertionSort fun a b => ByStamp stamp key b a).head? = log.getLast? := by
  have hsorted : log.reverse.Pairwise fun a b => ByStamp stamp key b a :=
    List.pairwise_reverse.mpr ((pairwise_byStamp_iff hkeys).mpr h)
  -- `key` tells the entries apart, so the order is antisymmetric on them
  have hantisymm : ∀ a b, a ∈ log.insertionSort (fun a b => ByStamp stamp key b a) → b ∈ log.reverse →
      ByStamp stamp key b a → ByStamp stamp key a b → a = b := by
    intro a b ha hb hba hab
    apply eq_of_key_eq hkeys ((List.mem_insertionSort _).mp ha) (List.mem_reverse.mp hb)
    exact hab.key_eq hba
  have hreverse : log.insertionSort (fun a b => ByStamp stamp key b a) = log.reverse := by
    refine List.Perm.eq_of_pairwise hantisymm ?_ hsorted ?_
    · exact List.pairwise_insertionSort _ _
    · exact (List.perm_insertionSort _ log).trans (List.reverse_perm log).symm
  rw [hreverse, List.head?_reverse]

/-- The same where the stamps grow; then the keys do not matter. -/
theorem head?_newest_of_growing {_ : DecidableRel fun a b => ByStamp stamp key b a}
    (h : log.Pairwise fun a b => stamp a < stamp b) :
    (log.insertionSort fun a b => ByStamp stamp key b a).head? = log.getLast? := by
  have hsorted : log.reverse.Pairwise fun a b => ByStamp stamp key b a :=
    List.pairwise_reverse.mpr (h.imp fun hlt => .inl hlt)
  have hnodup : (log.map stamp).Nodup := List.pairwise_map.mpr (h.imp ne_of_lt)
  -- the stamps tell the entries apart
  have hantisymm : ∀ a b, a ∈ log.insertionSort (fun a b => ByStamp stamp key b a) → b ∈ log.reverse →
      ByStamp stamp key b a → ByStamp stamp key a b → a = b := by
    intro a b ha hb hba hab
    have hstamp : stamp a = stamp b := by
      rcases hab with hlt | ⟨heq, -⟩
      · rcases hba with hlt' | ⟨heq', -⟩
        · exact (lt_asymm hlt hlt').elim
        · exact heq'.symm
      · exact heq
    exact List.inj_on_of_nodup_map hnodup ((List.mem_insertionSort _).mp ha) (List.mem_reverse.mp hb) hstamp
  have hreverse : log.insertionSort (fun a b => ByStamp stamp key b a) = log.reverse := by
    refine List.Perm.eq_of_pairwise hantisymm ?_ hsorted ?_
    · exact List.pairwise_insertionSort _ _
    · exact (List.perm_insertionSort _ log).trans (List.reverse_perm log).symm
  rw [hreverse, List.head?_reverse]

/-- Where stamps grow, the entries up to a stamp are the first ones. -/
theorem filter_le_prefix (h : log.Pairwise fun a b => stamp a < stamp b) (t : τ) :
    log.filter (fun a => stamp a ≤ t) <+: log := by
  induction log with
  | nil => exact List.prefix_rfl
  | cons a log ih =>
      obtain ⟨hhead, htail⟩ := List.pairwise_cons.mp h
      by_cases hle : stamp a ≤ t
      · have hfirst : (a :: log).filter (fun b => stamp b ≤ t) = a :: log.filter (fun b => stamp b ≤ t) := by
          rw [List.filter_cons, if_pos (decide_eq_true hle)]
        rw [hfirst, List.cons_prefix_cons]
        exact ⟨rfl, ih htail⟩
      · -- the first entry is later, so all of them are
        have hnone : (a :: log).filter (fun b => stamp b ≤ t) = [] := by
          rw [List.filter_eq_nil_iff]
          intro b hb
          rw [decide_eq_true_eq]
          rcases List.mem_cons.mp hb with rfl | hb
          · exact hle
          · exact fun hbt => hle ((hhead b hb).le.trans hbt)
        rw [hnone]
        exact List.nil_prefix

/-! ## Logs cut into groups -/

/-- Two logs with growing stamps and the same entries are the same. -/
theorem eq_of_mem_iff {l l' : List α} (h : l.Pairwise fun a b => stamp a < stamp b)
    (h' : l'.Pairwise fun a b => stamp a < stamp b) (hmem : ∀ a, a ∈ l ↔ a ∈ l') : l = l' := by
  have hnodup {m : List α} (hm : m.Pairwise fun a b => stamp a < stamp b) : m.Nodup :=
    hm.imp fun hab heq => absurd (congrArg stamp heq) hab.ne
  apply ((List.perm_ext_iff_of_nodup (hnodup h) (hnodup h')).mpr hmem).eq_of_pairwise _ h h'
  intro a b _ _ hab hba
  exact (lt_asymm hab hba).elim

/-- **Cutting a log** into groups, where the stamps grow from group to group: the groups in order are the log. -/
theorem eq_flatMap_filter {κ : Type} [LinearOrder κ] {group : α → κ} {groups : List κ}
    (h : log.Pairwise fun a b => stamp a < stamp b) (hgroups : groups.Pairwise (· < ·))
    (hall : ∀ a ∈ log, group a ∈ groups) (hmono : ∀ a ∈ log, ∀ b ∈ log, group a < group b → stamp a < stamp b) :
    log = groups.flatMap fun k => log.filter fun a => group a = k := by
  refine eq_of_mem_iff h ?_ fun a => ?_
  · rw [List.pairwise_flatMap]
    refine ⟨fun k _ => h.filter _, hgroups.imp fun {k k'} hk a ha b hb => ?_⟩
    rw [List.mem_filter, decide_eq_true_eq] at ha hb
    apply hmono a ha.1 b hb.1
    rwa [ha.2, hb.2]
  · simp only [List.mem_flatMap, List.mem_filter, decide_eq_true_eq]
    constructor
    · intro ha
      exact ⟨group a, hall a ha, ha, rfl⟩
    · rintro ⟨k, -, ha, -⟩
      exact ha

/-! ## The latest entry of a kind -/

/-- Where stamps grow, the last entry of a kind is the one with the latest stamp. -/
theorem getLast?_filter_eq_some_iff (h : log.Pairwise fun a b => stamp a < stamp b) {p : α → Bool} {a : α} :
    (log.filter p).getLast? = some a ↔ a ∈ log ∧ p a ∧ ∀ b ∈ log, p b → stamp b ≤ stamp a := by
  have hlast : ∀ c, (log.filter p).getLast? = some c → c ∈ log ∧ p c ∧ ∀ b ∈ log, p b → stamp b ≤ stamp c := by
    intro c hc
    obtain ⟨rest, hrest⟩ := List.getLast?_eq_some_iff.mp hc
    have hmem : c ∈ log.filter p := by
      rw [hrest]
      exact List.mem_append_right _ (List.mem_singleton_self c)
    refine ⟨(List.mem_filter.mp hmem).1, (List.mem_filter.mp hmem).2, ?_⟩
    intro b hb hpb
    have hsorted := h.filter p
    rw [hrest, List.pairwise_append] at hsorted
    have hin : b ∈ rest ++ [c] := hrest ▸ List.mem_filter.mpr ⟨hb, hpb⟩
    rcases List.mem_append.mp hin with hb | hb
    · exact (hsorted.2.2 b hb c (List.mem_singleton_self c)).le
    · rw [List.mem_singleton.mp hb]
  constructor
  · exact hlast a
  · rintro ⟨hmem, hpa, hmax⟩
    cases hc : (log.filter p).getLast? with
    | none =>
        rw [List.getLast?_eq_none_iff] at hc
        exact absurd (hc ▸ List.mem_filter.mpr ⟨hmem, hpa⟩) List.not_mem_nil
    | some c =>
        -- both are the latest, and a stamp belongs to one entry
        obtain ⟨hcmem, hpc, hcmax⟩ := hlast c hc
        have hnodup : (log.map stamp).Nodup := List.pairwise_map.mpr (h.imp ne_of_lt)
        rw [List.inj_on_of_nodup_map hnodup hcmem hmem (le_antisymm (hmax c hcmem hpc) (hcmax a hmem hpa))]

theorem getLast?_filter_eq_none_iff {p : α → Bool} :
    (log.filter p).getLast? = none ↔ ∀ b ∈ log, ¬ p b := by
  rw [List.getLast?_eq_none_iff, List.filter_eq_nil_iff]

/-- A kind with more entries has a later last one. -/
theorem getLast?_filter_mono (h : log.Pairwise fun a b => stamp a < stamp b) {p q : α → Bool}
    (hpq : ∀ a, p a → q a) {a : α} (ha : (log.filter p).getLast? = some a) :
    ∃ b, (log.filter q).getLast? = some b ∧ stamp a ≤ stamp b := by
  obtain ⟨hmem, hpa, -⟩ := (getLast?_filter_eq_some_iff h).mp ha
  cases hb : (log.filter q).getLast? with
  | none => exact absurd (hpq a hpa) (getLast?_filter_eq_none_iff.mp hb a hmem)
  | some b =>
      obtain ⟨-, -, hmax⟩ := (getLast?_filter_eq_some_iff h).mp hb
      exact ⟨b, rfl, hmax a hmem (hpq a hpa)⟩

end Chronology
