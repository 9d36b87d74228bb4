import CocktailMaker.IntegralType

/-!
# Saturating addition and subtraction

The guards of `saturating_add` and `saturating_sub` compare an operand with a
limit of the type from which the other operand was taken away.  The sign of
that operand is looked at first, so that neither a guard nor the result leaves
the range of the type.
-/

namespace CocktailMaker

namespace SaturatingArithmetic

variable {type : IntegralType}

/-- `first && second`, where `second` is evaluated only behind a true
`first`. -/
def andThen (first : Bool) (second : Option Bool) : Option Bool :=
  if first then second else some false

section Code

variable (evaluate : Int → Option Int) (lhs rhs : type.Value)

/-- `saturating_add`: every expression has its value from `evaluate`. -/
def saturatingAdd : Option type.Value := do
  if type.isSigned then
    if ← andThen (rhs.val > 0) do
        return lhs.val > (← evaluate (type.max - rhs.val)) then
      return type.limitsMax
    if ← andThen (rhs.val < 0) do
        return lhs.val < (← evaluate (type.min - rhs.val)) then
      return type.limitsMin
  else
    if lhs.val > (← evaluate (type.max - rhs.val)) then
      return type.limitsMax
  return type.cast (← evaluate (lhs.val + rhs.val))

/-- `saturating_sub` -/
def saturatingSub : Option type.Value := do
  if type.isSigned then
    if ← andThen (rhs.val < 0) do
        return lhs.val > (← evaluate (type.max + rhs.val)) then
      return type.limitsMax
    if ← andThen (rhs.val > 0) do
        return lhs.val < (← evaluate (type.min + rhs.val)) then
      return type.limitsMin
  else
    if lhs.val < rhs.val then
      return type.cast 0
  return type.cast (← evaluate (lhs.val - rhs.val))

end Code

section Evaluation

variable {evaluate : Int → Option Int}
  (faithful : ∀ exact, type.InRange exact → evaluate exact = some exact)

include faithful

/-- A guard that stays in the range tells whether the result leaves it. -/
theorem guard_eq {first leaves : Prop} [Decidable first] [Decidable leaves]
    {limit : Int} {exceeds : Int → Prop} [DecidablePred exceeds]
    (inRange : first → type.InRange limit)
    (same : first ∧ exceeds limit ↔ leaves) :
    andThen first (do return exceeds (← evaluate limit)) =
      some (decide leaves) := by
  by_cases holds : first
  · rw [andThen, if_pos (decide_eq_true holds), faithful limit (inRange holds),
      decide_eq_decide.mpr ((and_iff_right holds).symm.trans same).symm]
    rfl
  · have remains : ¬ leaves := fun leaves => holds (same.mpr leaves).1
    rw [andThen, if_neg (by simpa using holds), decide_eq_false remains]

theorem result_eq (exact : Int) :
    (if type.max < exact then some type.limitsMax
      else if exact < type.min then some type.limitsMin
      else (evaluate exact).bind fun value => some (type.cast value)) =
        some (type.clamp exact) := by
  split
  · next above => rw [type.clamp_of_max_le above.le]
  · split
    · next below => rw [type.clamp_of_le_min below.le]
    · next atMost atLeast =>
        have inRange : type.InRange exact :=
          ⟨Int.not_lt.mp atLeast, Int.not_lt.mp atMost⟩
        rw [faithful exact inRange, Option.bind_some,
          type.cast_of_inRange inRange]

theorem signed_eq {first second : Prop} [Decidable first] [Decidable second]
    {lhs upper lower exact : Int}
    (upperInRange : first → type.InRange upper)
    (lowerInRange : second → type.InRange lower)
    (tooLarge : first ∧ lhs > upper ↔ type.max < exact)
    (tooSmall : second ∧ lhs < lower ↔ exact < type.min) :
    (do
      if ← andThen first do return lhs > (← evaluate upper) then
        return type.limitsMax
      if ← andThen second do return lhs < (← evaluate lower) then
        return type.limitsMin
      return type.cast (← evaluate exact)) = some (type.clamp exact) := by
  rw [guard_eq faithful upperInRange tooLarge,
    guard_eq faithful lowerInRange tooSmall, ← result_eq faithful exact]
  simp only [Option.bind_eq_bind, Option.bind_some, decide_eq_true_eq,
    Option.pure_def]

theorem saturatingAdd_eq (lhs rhs : type.Value) :
    saturatingAdd evaluate lhs rhs = some (type.clamp (lhs.val + rhs.val)) := by
  obtain ⟨lhsAtLeast, lhsAtMost⟩ := lhs.property
  obtain ⟨rhsAtLeast, rhsAtMost⟩ := rhs.property
  unfold saturatingAdd
  cases signedness : type.isSigned with
  | true =>
      have limits := type.min_of_signed signedness
      exact signed_eq faithful
        (fun positive => ⟨by omega, by omega⟩)
        (fun negative => ⟨by omega, by omega⟩) (by omega) (by omega)
  | false =>
      have zero := type.min_of_unsigned signedness
      have limit : evaluate (type.max - rhs.val) = some (type.max - rhs.val) :=
        faithful _ ⟨by omega, by omega⟩
      have tooLarge : type.max - rhs.val < lhs.val ↔
          type.max < lhs.val + rhs.val := by omega
      have notSmall : ¬ lhs.val + rhs.val < type.min := by omega
      rw [← result_eq faithful (lhs.val + rhs.val)]
      simp only [Bool.false_eq_true, if_false, limit, Option.bind_eq_bind,
        Option.bind_some, Option.pure_def, gt_iff_lt, tooLarge, notSmall]

theorem saturatingSub_eq (lhs rhs : type.Value) :
    saturatingSub evaluate lhs rhs = some (type.clamp (lhs.val - rhs.val)) := by
  obtain ⟨lhsAtLeast, lhsAtMost⟩ := lhs.property
  obtain ⟨rhsAtLeast, rhsAtMost⟩ := rhs.property
  unfold saturatingSub
  cases signedness : type.isSigned with
  | true =>
      have limits := type.min_of_signed signedness
      exact signed_eq faithful
        (fun negative => ⟨by omega, by omega⟩)
        (fun positive => ⟨by omega, by omega⟩) (by omega) (by omega)
  | false =>
      have zero := type.min_of_unsigned signedness
      have notLarge : ¬ type.max < lhs.val - rhs.val := by omega
      have tooSmall : lhs.val - rhs.val < type.min ↔ lhs.val < rhs.val := by
        omega
      have castZero : type.cast 0 = type.limitsMin := by
        rw [type.cast_of_inRange ⟨zero.le, type.max_nonneg⟩,
          type.clamp_of_le_min zero.ge]
      rw [← result_eq faithful (lhs.val - rhs.val)]
      simp only [Bool.false_eq_true, if_false, Option.bind_eq_bind,
        Option.pure_def, castZero, tooSmall, notLarge]

end Evaluation

/-- Both operations clamp the exact result, as they are compiled with an `int`
of any width, and also when every expression that is evaluated has to stay in
the range of the type. -/
theorem saturating_exact (lhs rhs : type.Value) :
    (saturatingAdd type.checked lhs rhs =
        some (type.clamp (lhs.val + rhs.val)) ∧
      saturatingSub type.checked lhs rhs =
        some (type.clamp (lhs.val - rhs.val))) ∧
    ∀ intWidth,
      saturatingAdd (type.promoted intWidth).arithmetic lhs rhs =
          some (type.clamp (lhs.val + rhs.val)) ∧
        saturatingSub (type.promoted intWidth).arithmetic lhs rhs =
          some (type.clamp (lhs.val - rhs.val)) := by
  have inRange : ∀ exact, type.InRange exact →
      type.checked exact = some exact :=
    fun _ => type.checked_of_inRange
  refine ⟨⟨saturatingAdd_eq inRange lhs rhs,
    saturatingSub_eq inRange lhs rhs⟩, fun intWidth => ?_⟩
  have compiled : ∀ exact, type.InRange exact →
      (type.promoted intWidth).arithmetic exact = some exact :=
    fun _ => type.arithmetic_promoted intWidth
  exact ⟨saturatingAdd_eq compiled lhs rhs,
    saturatingSub_eq compiled lhs rhs⟩

/-- Both operands may be the minimum. -/
example :
    saturatingSub IntegralType.int64.checked IntegralType.int64.limitsMin
        IntegralType.int64.limitsMin = some ⟨0, by decide⟩ ∧
      saturatingAdd IntegralType.int64.checked IntegralType.int64.limitsMin
        IntegralType.int64.limitsMin = some IntegralType.int64.limitsMin := by
  decide

end SaturatingArithmetic

end CocktailMaker
