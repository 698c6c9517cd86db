import Reroute.Proofs.Double.Rounding
import Reroute.Proofs.Rate
import Reroute.Proofs.Store.Footprint

/-!
# How saved money is shown

Whatever rate was typed, loaded or announced, and however many redirects were counted, the saved
money is shown as an amount, but for two cases: a stored rate of negative zero passes for one that
is not below zero, and a rate may be so large that the money is infinite.

## Main definitions

* `Savings.Amount` — dollars with two places, or thousands of dollars with one.
* `Opened.Reachable` — the states that a store can come to.

## Main results

* `Savings.amount_of_finite` — a sum of money that is finite and not negative is shown as an amount.
* `Opened.Reachable.sound` — the rate of a store is unset, or finite and not below zero.
* `Opened.Reachable.amount_iff` — when a store shows an amount, and what it shows otherwise.
-/

namespace Reroute

/-! ## Written amounts -/

/-- Money as it is to be shown: dollars with two places, or thousands of dollars with one. -/
inductive Savings.Amount : List Char → Prop where
  | cents {whole places : List Char} (some : whole ≠ []) (two : places.length = 2)
    (digits : ∀ c ∈ whole ++ places, c.isDigit = true) : Amount ('$' :: (whole ++ '.' :: places))
  | thousands {whole places : List Char} (some : whole ≠ []) (one : places.length = 1)
    (digits : ∀ c ∈ whole ++ places, c.isDigit = true) :
    Amount ('$' :: (whole ++ '.' :: places ++ ['k']))

namespace Savings

/-- An amount goes on with a digit after its sign. -/
theorem Amount.isDigit {c : Char} {cs : List Char} (h : Amount ('$' :: c :: cs)) :
    c.isDigit = true := by
  generalize he : '$' :: c :: cs = text at h
  cases h with
  | @cents whole places some two digits =>
    cases whole with
    | nil => exact absurd rfl some
    | cons d whole =>
      obtain ⟨rfl, -⟩ := List.cons.inj (List.cons.inj he).2
      exact digits c List.mem_cons_self
  | @thousands whole places some one digits =>
    cases whole with
    | nil => exact absurd rfl some
    | cons d whole =>
      obtain ⟨rfl, -⟩ := List.cons.inj (List.cons.inj he).2
      exact digits c List.mem_cons_self

/-- A number that is finite and not negative is written with digits before and after its point. -/
theorem fixed_finite (places : Nat) (pos : 0 < places) (m : Magnitude) :
    ∃ whole fraction, (Double.finite false m).fixed places = whole ++ '.' :: fraction ∧
      whole ≠ [] ∧ fraction.length = places ∧ ∀ c ∈ whole ++ fraction, c.isDigit = true := by
  refine ⟨_, Decimal.padded places (m.inPlaces places % 10 ^ places), ?_,
    Decimal.digits_ne_nil (m.inPlaces places / 10 ^ places), ?_, fun c hc => ?_⟩
  · simp only [Double.fixed, Double.signText, Double.placesText, if_neg (Nat.ne_of_gt pos),
      Bool.false_eq_true, if_false, List.nil_append]
  · exact Decimal.length_padded pos (Nat.mod_lt _ (Nat.pow_pos (by decide)))
  · rcases List.mem_append.1 hc with hc | hc
    · exact Decimal.isDigit_of_mem_digits hc
    · exact Decimal.isDigit_of_mem_padded hc

end Savings

/-! ## Money -/

namespace Double

open Magnitude (unit bound)

/-- A product of numbers that are small enough is finite. -/
theorem AtMost.mul {x y : Double} {m n k : Nat} (hx : AtMost m x) (hy : AtMost n y)
    (hk : m * n ≤ k * unit) (h : 2 * k + 1 < bound) : AtMost (2 * k + 1) (x.mul y) := by
  obtain ⟨a, rfl, ha⟩ := hx
  obtain ⟨b, rfl, hb⟩ := hy
  exact atMost_ofQuanta (Nat.le_trans (Nat.mul_le_mul ha hb) hk) h

theorem AtMost.mono {x : Double} {m n : Nat} (h : AtMost m x) (le : m ≤ n) : AtMost n x := by
  obtain ⟨a, rfl, ha⟩ := h
  exact ⟨a, rfl, Nat.le_trans ha le⟩

end Double

namespace Savings

open Double (AtMost)
open Magnitude (unit bound)

/-- The minutes of any number of redirects are finite and not negative. -/
theorem atMost_minutesSaved (n : UInt64) : AtMost (2 ^ 74 * unit) (minutesSaved n) := by
  have large := Double.bound_gt
  have pos := Magnitude.unit_pos
  have count : AtMost (2 ^ 66 * unit) (Double.ofNat n.toNat) := by
    have small : n.toNat * unit ≤ 2 ^ 64 * unit * 1 := by
      rw [Nat.mul_one]
      exact Nat.mul_le_mul_right _ (Nat.le_of_lt n.toNat_lt)
    exact (Double.atMost_ofQuanta small (by omega)).mono (by omega)
  have each : AtMost (2 ^ 6 * unit) minutesPerRedirect := by
    have small : 35 * unit ≤ 18 * unit * 2 := by omega
    exact (Double.atMost_ofQuanta small (by omega)).mono (by omega)
  have product : 2 ^ 66 * unit * (2 ^ 6 * unit) = 2 ^ 72 * unit * unit := by
    rw [Nat.mul_mul_mul_comm, ← Nat.pow_add, Nat.mul_assoc]
  exact (count.mul each (Nat.le_of_eq product) (by omega)).mono (by omega)

/-- Money is a rounded product, with the sign of the rate. -/
theorem moneySaved_eq (n : UInt64) (s : Bool) (m : Magnitude) :
    ∃ a b : Magnitude, minutesSaved n = .finite false a ∧ (Double.finite s m).div 60 = .finite s b ∧
      moneySaved (minutesSaved n) (some (.finite s m)) =
        Double.ofQuanta s (a.quanta * b.quanta) unit := by
  obtain ⟨a, ha, -⟩ := atMost_minutesSaved n
  obtain ⟨b, hb, -⟩ := Double.exists_div_ofNat s m (d := 60) (by decide) (by decide)
  have hb : (Double.finite s m).div 60 = .finite s b := hb
  refine ⟨a, b, ha, hb, ?_⟩
  rw [ha, moneySaved, hb, Double.mul, Bool.false_xor]

/-- A rate of negative zero makes the money negative zero. -/
theorem moneySaved_negative_zero (n : UInt64) :
    moneySaved (minutesSaved n) (some (.finite true .zero)) = .finite true .zero := by
  obtain ⟨a, ha, -⟩ := atMost_minutesSaved n
  have hour : (Double.finite true .zero).div 60 = .finite true .zero := by decide +kernel
  have product : a.quanta * Magnitude.zero.quanta = 0 := Nat.mul_zero _
  rw [ha, moneySaved, hour, Double.mul, product]
  decide +kernel

/-- With a rate that is not below zero, money is not below zero either, but it may be too large. -/
theorem moneySaved_cases (n : UInt64) (m : Magnitude) :
    (∃ c, moneySaved (minutesSaved n) (some (.finite false m)) = .finite false c) ∨
      moneySaved (minutesSaved n) (some (.finite false m)) = .infinite false := by
  obtain ⟨a, b, -, -, money⟩ := moneySaved_eq n false m
  rw [money, Double.ofQuanta]
  split
  · exact .inl ⟨_, rfl⟩
  · exact .inr rfl

/-- Rates up to `2 ^ 920` leave all money finite. -/
theorem moneySaved_ne_infinite (n : UInt64) {m : Magnitude} {k : Nat} (hk : k ≤ 920)
    (hm : m.quanta ≤ 2 ^ k * unit) :
    moneySaved (minutesSaved n) (some (.finite false m)) ≠ .infinite false := by
  have large : 2 ^ (78 + k) * unit < bound := Magnitude.pow_mul_unit_lt (by omega)
  rw [Nat.pow_add, Nat.mul_assoc] at large
  have pos : 0 < 2 ^ k * unit := Nat.mul_pos (Nat.two_pow_pos _) Magnitude.unit_pos
  have rate : AtMost (2 ^ k * unit) (.finite false m) := ⟨m, rfl, hm⟩
  generalize 2 ^ k * unit = r at *
  have hour : AtMost (2 ^ 2 * r) ((Double.finite false m).div 60) :=
    (rate.div (d := 60) (by decide) (by decide) (by omega)).mono (by omega)
  have product : 2 ^ 74 * unit * (2 ^ 2 * r) = 2 ^ 76 * r * unit := by
    rw [Nat.mul_mul_mul_comm, ← Nat.pow_add, Nat.mul_comm unit r, Nat.mul_assoc]
  obtain ⟨c, hc, -⟩ := (atMost_minutesSaved n).mul hour (Nat.le_of_eq product) (by omega)
  rw [moneySaved, hc]
  nofun

/-! ## Labels -/

/-- Money that is finite and not negative is shown as an amount. -/
theorem amount_of_finite (m : Magnitude) : Amount (moneyChars (.finite false m)) := by
  unfold moneyChars
  split
  · obtain ⟨c, hc, -⟩ := Double.exists_div_ofNat false m (d := 1000) (by decide) (by decide)
    have thousands : (Double.finite false m).div 1000 = .finite false c := hc
    obtain ⟨whole, place, text, some, one, digits⟩ := fixed_finite 1 (by decide) c
    rw [thousands, text]
    exact .thousands some one digits
  · obtain ⟨whole, places, text, some, two, digits⟩ := fixed_finite 2 (by decide) m
    rw [text]
    exact .cents some two digits

theorem moneyChars_negative_zero :
    moneyChars (.finite true .zero) = ['$', '-', '0', '.', '0', '0'] := by decide +kernel

theorem moneyChars_infinite : moneyChars (.infinite false) = ['$', 'i', 'n', 'f', 'k'] := by
  decide +kernel

theorem eq_zero_of_sound {m : Magnitude} (h : Settings.Sound ⟨some (.finite true m)⟩) :
    m = .zero := by
  have least := h (.finite true m) rfl
  rw [Bool.and_eq_true] at least
  exact Double.eq_zero_of_zero_le least.2

/-- The rate is negative zero, or the money is infinite, or it is shown as an amount. -/
theorem moneyLabel_cases {s : Settings} (sound : s.Sound) (n : UInt64) :
    let v := ofRedirects n s
    (s.hourlyRate = some (.finite true .zero) ∧ v.money = .finite true .zero ∧
      v.moneyLabel = "$-0.00") ∨
    s.hourlyRate ≠ some (.finite true .zero) ∧
      (v.money = .infinite false ∧ v.moneyLabel = "$infk" ∨
        v.money ≠ .infinite false ∧ Amount v.moneyLabel.toList) := by
  obtain ⟨rate⟩ := s
  have shown (money : Double) : (moneyText money).toList = moneyChars money := String.toList_ofList
  have ends {c : Magnitude} (money : moneySaved (minutesSaved n) rate = .finite false c) :
      moneySaved (minutesSaved n) rate ≠ .infinite false ∧
        Amount (moneyText (moneySaved (minutesSaved n) rate)).toList := by
    rw [shown, money]
    exact ⟨nofun, amount_of_finite c⟩
  match rate, sound with
  | none, _ => exact .inr ⟨nofun, .inr (ends (c := .zero) rfl)⟩
  | some (.finite false m), _ =>
    refine .inr ⟨nofun, ?_⟩
    rcases moneySaved_cases n m with ⟨c, money⟩ | money
    · exact .inr (ends money)
    · refine .inl ⟨money, ?_⟩
      exact congrArg String.ofList ((congrArg moneyChars money).trans moneyChars_infinite)
  | some (.finite true m), sound =>
    rw [eq_zero_of_sound sound]
    have money := moneySaved_negative_zero n
    refine .inl ⟨rfl, money, ?_⟩
    exact congrArg String.ofList ((congrArg moneyChars money).trans moneyChars_negative_zero)
  | some .nan, sound => cases sound .nan rfl
  | some (.infinite s), sound => cases sound (.infinite s) rfl

/-- The label of money is an amount unless the rate is negative zero or the money is infinite. -/
theorem amount_iff_of_sound {s : Settings} (sound : s.Sound) (n : UInt64) :
    let v := ofRedirects n s
    (Amount v.moneyLabel.toList ↔
      s.hourlyRate ≠ some (.finite true .zero) ∧ v.money ≠ .infinite false) ∧
    (s.hourlyRate = some (.finite true .zero) → v.moneyLabel = "$-0.00") ∧
    (v.money = .infinite false → v.moneyLabel = "$infk") := by
  intro v
  have negative : ¬Amount "$-0.00".toList := fun h => absurd h.isDigit (by decide)
  have infinite : ¬Amount "$infk".toList := fun h => absurd h.isDigit (by decide)
  rcases moneyLabel_cases sound n with
    ⟨rate, money, label⟩ | ⟨rate, ⟨money, label⟩ | ⟨money, shown⟩⟩
  · change v.money = _ at money
    change v.moneyLabel = _ at label
    rw [label, money]
    exact ⟨iff_of_false negative fun h => h.1 rate, fun _ => rfl, nofun⟩
  · change v.money = _ at money
    change v.moneyLabel = _ at label
    rw [label, money]
    exact ⟨iff_of_false infinite fun h => h.2 rfl, fun h => absurd h rate, fun _ => rfl⟩
  · exact ⟨iff_of_true shown ⟨rate, money⟩, fun h => absurd h rate, fun h => absurd h money⟩

/-- Money is infinite only for a rate above `2 ^ 920`. -/
theorem rate_of_infinite {s : Settings} (sound : s.Sound) {n : UInt64}
    (h : (ofRedirects n s).money = .infinite false) :
    ∃ m, s.hourlyRate = some (.finite false m) ∧ 2 ^ 920 * unit < m.quanta := by
  obtain ⟨rate⟩ := s
  change moneySaved (minutesSaved n) rate = .infinite false at h
  match rate, sound with
  | none, _ => cases h
  | some (.finite false m), _ =>
    exact ⟨m, rfl, Nat.lt_of_not_le fun small => moneySaved_ne_infinite n (Nat.le_refl _) small h⟩
  | some (.finite true m), sound =>
    rw [eq_zero_of_sound sound, moneySaved_negative_zero] at h
    cases h
  | some .nan, sound => cases sound .nan rfl
  | some (.infinite s), sound => cases sound (.infinite s) rfl

end Savings

/-! ## Stores -/

namespace Opened

open Magnitude (unit)

section Storage

variable {σ : Type} [Medium σ] [Substrate σ] [Ledger σ]

/-- A state that a store can come to, whatever others do at its storage. -/
inductive Reachable : Opened σ → Prop where
  | new (links : Links) (m : σ) (ids : Supply) : Reachable ⟨.new links, m, ids⟩
  | use {o : Opened σ} (reached : Reachable o) (u : Use) : Reachable (o.use u)
  | elsewhere {o : Opened σ} (reached : Reachable o) (m : σ) : Reachable { o with medium := m }

/-- No operation, and no change that is announced, makes a rate unsound. -/
theorem sound_use {o : Opened σ} (sound : o.store.settings.Sound) (u : Use) :
    (o.use u).store.settings.Sound := by
  by_cases renews : u.Renews o.store.links .settings
  · match u, renews with
    | .act (.call (.rate raw)), _ =>
      obtain ⟨m, called⟩ := o.call_snd (.rate raw)
      have made : o.use (.act (.call (.rate raw))) = (o.call (.rate raw)).2 := rfl
      rw [made, called, Call.plan]
      cases accepted : Rate.ofInput raw with
      | error r => exact sound
      | ok rate => exact Rate.sound_of_ofInput accepted
    | .act (.load υ), renewed =>
      cases (renewed : Topic.settings = υ)
      exact Settings.normalize_sound _
    | .handle c, _ => exact Store.handle_sound sound c
  · have kept : (o.use u).store.settings = o.store.settings :=
      (o.footprint u).parts .settings renews
    rwa [kept]

/-- The rate of a store is unset, or finite and not below zero. -/
theorem Reachable.sound {o : Opened σ} (h : o.Reachable) : o.store.settings.Sound := by
  induction h with
  | new links m ids => nofun
  | use reached u ih => exact sound_use ih u
  | elsewhere reached m ih => exact ih

/-- What a store says about the money of all redirects, or of a rule's, is an amount, unless the
rate is negative zero or the money is infinite. Only rates above `2 ^ 920` make it infinite. -/
theorem Reachable.amount_iff {o : Opened σ} (h : o.Reachable) {v : Savings}
    (asked : v = o.store.savings ∨ ∃ id, v = o.store.ruleSavings id) :
    let rate := o.store.settings.hourlyRate
    (Savings.Amount v.moneyLabel.toList ↔
      rate ≠ some (.finite true .zero) ∧ v.money ≠ .infinite false) ∧
    (rate = some (.finite true .zero) → v.moneyLabel = "$-0.00") ∧
    (v.money = .infinite false →
      v.moneyLabel = "$infk" ∧ ∃ m, rate = some (.finite false m) ∧ 2 ^ 920 * unit < m.quanta) := by
  have sound := h.sound
  obtain ⟨n, rfl⟩ : ∃ n, v = .ofRedirects n o.store.settings := by
    rcases asked with rfl | ⟨id, rfl⟩
    · exact ⟨o.store.metrics.total, rfl⟩
    · exact ⟨o.store.metrics.countFor id, rfl⟩
  obtain ⟨amount, negative, infinite⟩ := Savings.amount_iff_of_sound sound n
  exact ⟨amount, negative, fun money => ⟨infinite money, Savings.rate_of_infinite sound money⟩⟩

end Storage

/-- Three thousand redirects at a rate of `2 ^ 1023`. -/
theorem Reachable.amount_iff_infinite :
    let large : Magnitude := ⟨2 ^ 2097, by decide +kernel⟩
    let rate : Json := .object [("hourly_rate", .number (.float false large))]
    let counts : Json := .object [("total_redirects", .number (.natural 3000))]
    let o := ((⟨.new (.working true), Memory.empty, .from 0⟩ : Opened Memory).use
      (.handle ⟨⟨.sync, Store.settingsKey⟩, none, some rate⟩)).use
      (.handle ⟨⟨.device, Store.metricsKey⟩, none, some counts⟩)
    o.Reachable ∧ o.store.savings.moneyLabel = "$infk" := by
  intro large rate counts o
  have reached : o.Reachable := ((Reachable.new _ _ _).use _).use _
  have money : o.store.savings.money = .infinite false := by decide +kernel
  exact ⟨reached, ((reached.amount_iff (.inl rfl)).2.2 money).1⟩

/-- A change announces a rate of negative zero. -/
theorem exists_shown_sign :
    ∃ o : Opened Memory, o.Reachable ∧ ¬Savings.Amount o.store.savings.moneyLabel.toList := by
  let rate : Json := .object [("hourly_rate", .number (.float true .zero))]
  let o := (⟨.new (.working true), Memory.empty, .from 0⟩ : Opened Memory).use
    (.handle ⟨⟨.sync, Store.settingsKey⟩, none, some rate⟩)
  have label : o.store.savings.moneyLabel.toList = ['$', '-', '0', '.', '0', '0'] := by
    decide +kernel
  refine ⟨o, (Reachable.new _ _ _).use _, fun shown => ?_⟩
  rw [label] at shown
  exact absurd shown.isDigit (by decide)

end Opened

end Reroute
