import Stencil.Value

/-!
# `Stencil.Proofs.Key` — when two keys are the same

Sameness of keys is no equality: `1`, `1.0` and `True` are one key, and so are two times in different
zones that are the same instant.  It is an equivalence all the same, except that not-a-number is not the
same as itself.  What makes single values the same is what they have in common, their `Identity`
(`Scalar.same_iff`): numbers have their exact value, times their instant, all others themselves.

## Contents
- **Identities.** `Scalar.Identity`, `Scalar.identity?` and **`Scalar.same_iff`**.
- **Keys.** Sameness is symmetric and transitive, for keys and for the items of tuples: the instance
  `PartialEquivBEq Key`.
-/

namespace Stencil

/-! ## Identities -/

namespace Scalar

/-- What single values that are the same key have in common. -/
inductive Identity where
  | number (value : Rat)
  | time (zoned : Bool) (instant : Int)
  | other (s : Scalar)

/-- The identity of a single value; not-a-number has none. -/
def identity? (s : Scalar) : Option Identity :=
  match s, s.ratio? with
  | .float .nan, _ => none
  | .dateTime t, _ => some (.time t.zone?.isSome t.instant)
  | _, some (m, i) => some (.number (mkRat m (Binary64.twoTo i)))
  | s, none => some (.other s)

theorem twoTo_ne_zero (n : Nat) : Binary64.twoTo n ≠ 0 :=
  Nat.pos_iff_ne_zero.1 (Nat.pow_pos (by decide))

theorem identity?_eq_number_iff {s : Scalar} {value : Rat} :
    s.identity? = some (.number value) ↔
      ∃ m i, s.ratio? = some (m, i) ∧ mkRat m (Binary64.twoTo i) = value := by
  rcases s with _ | _ | _ | (_ | _ | _) | _ | _ | _ | _ <;> simp [identity?, ratio?, and_assoc]

theorem identity?_eq_time_iff {s : Scalar} {zoned : Bool} {instant : Int} :
    s.identity? = some (.time zoned instant) ↔
      ∃ t, s = .dateTime t ∧ t.zone?.isSome = zoned ∧ t.instant = instant := by
  rcases s with _ | _ | _ | (_ | _ | _) | _ | _ | _ | _ <;> simp [identity?, ratio?]

theorem identity?_eq_other_iff {s other : Scalar} :
    s.identity? = some (.other other) ↔
      s = other ∧ s.ratio? = none ∧ s ≠ .float .nan ∧ ∀ t, s ≠ .dateTime t := by
  rcases s with _ | _ | _ | (_ | _ | _) | _ | _ | _ | _ <;> simp [identity?, ratio?]

/-- Numbers are compared by their exact values. -/
theorem same_of_ratio? {a b : Scalar} {m n : Int} {i j : Nat} (ha : a.ratio? = some (m, i))
    (hb : b.ratio? = some (n, j)) :
    a.same b = true ↔ mkRat m (Binary64.twoTo i) = mkRat n (Binary64.twoTo j) := by
  rw [Rat.mkRat_eq_iff (twoTo_ne_zero i) (twoTo_ne_zero j)]
  unfold same
  split
  next => cases ha
  next => cases ha
  next => simp [ha, hb]

/-- What is no number and no time is the same as itself. -/
theorem same_self {s : Scalar} (hratio : s.ratio? = none) (hnan : s ≠ .float .nan)
    (htime : ∀ t, s ≠ .dateTime t) : s.same s = true := by
  unfold same
  split
  next => exact beq_self_eq_true _
  next => exact absurd rfl (htime _)
  next => simp [hratio, hnan]

/-- **Single values are the same key if they have one identity.** -/
theorem same_iff {a b : Scalar} :
    a.same b = true ↔ ∃ identity, a.identity? = some identity ∧ b.identity? = some identity := by
  constructor
  · intro h
    unfold same at h
    split at h
    next s t =>
      obtain rfl : s = t := eq_of_beq h
      exact ⟨.other (.text s), rfl, rfl⟩
    next s t =>
      obtain ⟨hzoned, hinstant⟩ := Bool.and_eq_true_iff.1 (show (_ && _) = true from h)
      have hs := identity?_eq_time_iff.2 ⟨s, rfl, eq_of_beq hzoned, eq_of_beq hinstant⟩
      exact ⟨_, hs, identity?_eq_time_iff.2 ⟨t, rfl, rfl, rfl⟩⟩
    next _ htimes =>
      split at h
      next m i n j ha hb =>
        have hvalue := (Rat.mkRat_eq_iff (twoTo_ne_zero i) (twoTo_ne_zero j)).2 (eq_of_beq h)
        exact ⟨_, identity?_eq_number_iff.2 ⟨m, i, ha, hvalue⟩,
          identity?_eq_number_iff.2 ⟨n, j, hb, rfl⟩⟩
      next ha _ =>
        obtain ⟨hnan, hsame⟩ := Bool.and_eq_true_iff.1 h
        obtain rfl : a = b := eq_of_beq hsame
        have hother := identity?_eq_other_iff.2
          ⟨rfl, ha, ne_of_beq_false (by simpa using hnan), fun t ht => htimes t t ht ht⟩
        exact ⟨_, hother, hother⟩
      next => cases h
  · rintro ⟨identity, ha, hb⟩
    cases identity with
    | number value =>
      obtain ⟨m, i, hratio, hvalue⟩ := identity?_eq_number_iff.1 ha
      obtain ⟨n, j, hother, hsame⟩ := identity?_eq_number_iff.1 hb
      exact (same_of_ratio? hratio hother).2 (hvalue.trans hsame.symm)
    | time zoned instant =>
      obtain ⟨s, rfl, hzoned, hinstant⟩ := identity?_eq_time_iff.1 ha
      obtain ⟨t, rfl, hother, hsame⟩ := identity?_eq_time_iff.1 hb
      show (_ && _) = true
      rw [hzoned, hother, hinstant, hsame, beq_self_eq_true, beq_self_eq_true]
      rfl
    | other s =>
      obtain ⟨rfl, hratio, hnan, htime⟩ := identity?_eq_other_iff.1 ha
      obtain ⟨rfl, -⟩ := identity?_eq_other_iff.1 hb
      exact same_self hratio hnan htime

theorem same_symm {a b : Scalar} (h : a.same b = true) : b.same a = true := by
  obtain ⟨identity, ha, hb⟩ := same_iff.1 h
  exact same_iff.2 ⟨identity, hb, ha⟩

theorem same_trans {a b c : Scalar} (hab : a.same b = true) (hbc : b.same c = true) :
    a.same c = true := by
  obtain ⟨identity, ha, hb⟩ := same_iff.1 hab
  obtain ⟨other, hother, hc⟩ := same_iff.1 hbc
  obtain rfl : identity = other := Option.some.inj (hb.symm.trans hother)
  exact same_iff.2 ⟨identity, ha, hc⟩

end Scalar

/-! ## Keys -/

namespace Key

theorem same_scalar_iff {s : Scalar} {b : Key} :
    (Key.scalar s).same b = true ↔ ∃ t, b = .scalar t ∧ s.same t = true := by
  cases b <;> simp [Key.same]

theorem same_tuple_iff {items : List Key} {b : Key} :
    (Key.tuple items).same b = true ↔ ∃ others, b = .tuple others ∧ sameItems items others = true := by
  cases b <;> simp [Key.same]

end Key

theorem sameItems_nil_iff {others : List Key} : sameItems [] others = true ↔ others = [] := by
  cases others <;> simp [sameItems]

theorem sameItems_cons_iff {a : Key} {as others : List Key} :
    sameItems (a :: as) others = true ↔
      ∃ b bs, others = b :: bs ∧ a.same b = true ∧ sameItems as bs = true := by
  cases others <;> simp [sameItems, and_assoc]

mutual

theorem Key.same_symm {a b : Key} (h : a.same b = true) : b.same a = true := by
  cases a with
  | scalar s =>
    obtain ⟨t, rfl, hst⟩ := Key.same_scalar_iff.1 h
    exact Key.same_scalar_iff.2 ⟨s, rfl, Scalar.same_symm hst⟩
  | tuple items =>
    obtain ⟨others, rfl, hitems⟩ := Key.same_tuple_iff.1 h
    exact Key.same_tuple_iff.2 ⟨items, rfl, sameItems_symm hitems⟩

theorem sameItems_symm {items others : List Key} (h : sameItems items others = true) :
    sameItems others items = true := by
  cases items with
  | nil =>
    obtain rfl := sameItems_nil_iff.1 h
    exact h
  | cons a as =>
    obtain ⟨b, bs, rfl, hfirst, hrest⟩ := sameItems_cons_iff.1 h
    exact sameItems_cons_iff.2 ⟨a, as, rfl, Key.same_symm hfirst, sameItems_symm hrest⟩

end

mutual

theorem Key.same_trans {a b c : Key} (hab : a.same b = true) (hbc : b.same c = true) :
    a.same c = true := by
  cases a with
  | scalar s =>
    obtain ⟨t, rfl, hst⟩ := Key.same_scalar_iff.1 hab
    obtain ⟨u, rfl, htu⟩ := Key.same_scalar_iff.1 hbc
    exact Key.same_scalar_iff.2 ⟨u, rfl, Scalar.same_trans hst htu⟩
  | tuple items =>
    obtain ⟨others, rfl, hitems⟩ := Key.same_tuple_iff.1 hab
    obtain ⟨last, rfl, hothers⟩ := Key.same_tuple_iff.1 hbc
    exact Key.same_tuple_iff.2 ⟨last, rfl, sameItems_trans hitems hothers⟩

theorem sameItems_trans {items others last : List Key} (h : sameItems items others = true)
    (hlast : sameItems others last = true) : sameItems items last = true := by
  cases items with
  | nil =>
    obtain rfl := sameItems_nil_iff.1 h
    exact hlast
  | cons a as =>
    obtain ⟨b, bs, rfl, hab, has⟩ := sameItems_cons_iff.1 h
    obtain ⟨c, cs, rfl, hbc, hbs⟩ := sameItems_cons_iff.1 hlast
    exact sameItems_cons_iff.2 ⟨c, cs, rfl, Key.same_trans hab hbc, sameItems_trans has hbs⟩

end

instance : PartialEquivBEq Key where
  symm := Key.same_symm
  trans := Key.same_trans

end Stencil
