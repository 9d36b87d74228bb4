import CocktailMaker.DoubleProcessing

/-!
# Which loaded recipes can be processed

`parse_recipe` treats the nominal serving volume as optional and takes any
number for it and for the volumes of the steps.  `scale_recipe` asserts that it
is positive.  A target volume that is too large makes the volumes infinite, and
boosting two infinite volumes leaves no numbers.
-/

namespace CocktailMaker

namespace Doubles

open Binary64

section MainResult

variable {toLitre toMilliLitre : Float → Float} {recipe : Recipe Float}
  {store : IngredientStore}

theorem processRecipe_eq
    (nominalPositive : 0 < toMilliLitre recipe.nominalServingVolume)
    {boost targetVolume : Float} (targetNonneg : 0 ≤ toMilliLitre targetVolume)
    (inRange : boost.abs ≤ 100) :
    processRecipe toMilliLitre recipe boost targetVolume store =
      .ok (boosted toMilliLitre boost store
        (scaled toMilliLitre recipe.nominalServingVolume targetVolume
          recipe.commands)) := by
  rw [processRecipe, scaleRecipe_eq nominalPositive targetNonneg]
  exact boostRecipe_eq inRange

theorem nominal_pos_of_processRecipe {boost targetVolume : Float}
    {commands : Commands Float}
    (processed : processRecipe toMilliLitre recipe boost targetVolume store =
      .ok commands) : 0 < toMilliLitre recipe.nominalServingVolume := by
  unfold processRecipe scaleRecipe at processed
  obtain ⟨scaled, isScaled, -⟩ := except_bind_eq_ok.mp processed
  obtain ⟨done, checked, -⟩ := except_bind_eq_ok.mp isScaled
  exact assertThat_eq_ok.mp checked

theorem boosted_zero (commands : Commands Float) :
    boosted toMilliLitre 0 store commands = commands := by
  have small : (0 / 100 : Float).abs < epsilon := by
    rw [epsilon_eq]
    decide
  exact if_pos small

theorem scaled_nominal {nominalServingVolume : Float}
    (positive : 0 < toMilliLitre nominalServingVolume)
    (isFinite : (toMilliLitre nominalServingVolume).isInf = false)
    (commands : Commands Float) :
    scaled toMilliLitre nominalServingVolume nominalServingVolume commands =
      commands := by
  have near : NearOne
      (scaleFactor toMilliLitre nominalServingVolume nominalServingVolume) := by
    rw [scaleFactor, Binary64.div_self positive isFinite, NearOne, epsilon_eq]
    decide
  exact if_pos near

/-- A recipe is processed into nonnegative volumes when it has a positive
nominal volume and no negative one, and no operation is invalid. -/
theorem processed_nonneg (keepsSign : KeepsSign toMilliLitre)
    (nominalPositive : 0 < toMilliLitre recipe.nominalServingVolume)
    (nonneg : ∀ volume ∈ recipe.commands.volumes, 0 ≤ volume)
    {boost targetVolume : Float} (targetNonneg : 0 ≤ targetVolume)
    (inRange : boost.abs ≤ 100)
    (valid : ¬ InvalidProcessing toMilliLitre store recipe boost
      targetVolume) :
    ∃ commands, processRecipe toMilliLitre recipe boost targetVolume store =
        .ok commands ∧
      ∀ volume ∈ commands.volumes, 0 ≤ volume := by
  have targetMl := keepsSign.nonneg _ targetNonneg
  refine ⟨_, processRecipe_eq nominalPositive targetMl inRange, ?_⟩
  refine boosted_nonneg keepsSign inRange
    (fun large invalid => valid (.boosting large invalid)) ?_
  exact scaled_nonneg nominalPositive targetMl
    (fun invalid => valid (.scaling invalid)) nonneg

/-- An invalid operation leaves a volume that is no number, and so not at least
zero. -/
theorem valid_of_processed (keepsSign : KeepsSign toMilliLitre)
    {targetVolume : Float} (targetNonneg : 0 ≤ targetVolume)
    (processable : ∀ boost : Float, boost.abs ≤ 100 → ∃ commands,
      processRecipe toMilliLitre recipe boost targetVolume store =
          .ok commands ∧
        ∀ volume ∈ commands.volumes, 0 ≤ volume)
    {boost : Float} (inRange : boost.abs ≤ 100) :
    ¬ InvalidProcessing toMilliLitre store recipe boost targetVolume := by
  have targetMl := keepsSign.nonneg _ targetNonneg
  rintro (invalid | ⟨large, invalid⟩)
  · have zero : (0 : Float).abs ≤ 100 := by decide
    obtain ⟨commands, returned, nonneg⟩ := processable 0 zero
    rw [processRecipe_eq (nominal_pos_of_processRecipe returned) targetMl zero,
      boosted_zero] at returned
    obtain rfl := Except.ok.inj returned
    obtain ⟨volume, member, isNaN⟩ := exists_isNaN_of_invalidScaling invalid
    exact not_nonneg_of_isNaN isNaN (nonneg volume member)
  · obtain ⟨commands, returned, nonneg⟩ := processable boost inRange
    rw [processRecipe_eq (nominal_pos_of_processRecipe returned) targetMl
      inRange] at returned
    obtain rfl := Except.ok.inj returned
    obtain ⟨dispense, member, isNaN⟩ :=
      exists_isNaN_of_invalidBoost keepsSign invalid
    refine not_nonneg_of_isNaN isNaN (nonneg _ ?_)
    unfold boosted
    simp only [if_neg large]
    exact (mem_volumes_scaleCommands _ store).mpr ⟨dispense, member, rfl⟩

/-- For the target volumes up to a limit: an accepted recipe can be processed
into nonnegative volumes for every boost exactly when its document names a
positive nominal serving volume and no negative volume, and no operation on the
way is invalid. -/
theorem processable_upTo_iff (keepsSign : KeepsSign toMilliLitre) (doc : Json)
    (filePath : RecipePath)
    (accepted : parseRecipe toLitre store doc filePath = .ok recipe)
    {limit : Float} (limitNonneg : 0 ≤ limit)
    (nominalLe : toLitre (nominalNumber doc) ≤ limit) :
    (∀ targetVolume boost : Float, 0 ≤ targetVolume → targetVolume ≤ limit →
        boost.abs ≤ 100 → ∃ commands,
          processRecipe toMilliLitre recipe boost targetVolume store =
              .ok commands ∧
            ∀ volume ∈ commands.volumes, 0 ≤ volume) ↔
      0 < toMilliLitre (toLitre (nominalNumber doc)) ∧
        (∀ volume ∈ volumeNumbers doc, 0 ≤ toLitre volume) ∧
        ∀ targetVolume boost : Float, 0 ≤ targetVolume →
          targetVolume ≤ limit → boost.abs ≤ 100 →
            ¬ InvalidProcessing toMilliLitre store recipe boost
              targetVolume := by
  have nominal := (parseRecipe_dispenses accepted).1
  have volumes := parseRecipe_volumes accepted
  have nonneg_iff : (∀ volume ∈ recipe.commands.volumes, 0 ≤ volume) ↔
      ∀ volume ∈ volumeNumbers doc, 0 ≤ toLitre volume := by
    rw [volumes, List.forall_mem_map]
  rw [← nominal] at nominalLe ⊢
  rw [← nonneg_iff]
  have zero : (0 : Float).abs ≤ 100 := by decide
  constructor
  · intro processable
    obtain ⟨commands, returned, -⟩ :=
      processable 0 0 (by decide) limitNonneg zero
    have nominalPositive := nominal_pos_of_processRecipe returned
    have nominalNonneg := keepsSign.nonneg_of_pos _ nominalPositive
    have valid : ∀ targetVolume boost : Float, 0 ≤ targetVolume →
        targetVolume ≤ limit → boost.abs ≤ 100 →
          ¬ InvalidProcessing toMilliLitre store recipe boost targetVolume :=
      fun targetVolume boost targetNonneg atMost inRange =>
        valid_of_processed keepsSign targetNonneg
          (fun other otherInRange =>
            processable targetVolume other targetNonneg atMost otherInRange)
          inRange
    refine ⟨nominalPositive, fun volume member => ?_, valid⟩
    -- The recipe at its nominal volume and without boost is the recipe.
    cases infinite : (toMilliLitre recipe.nominalServingVolume).isInf with
    | true =>
        refine absurd ?_ (valid _ 0 nominalNonneg nominalLe zero)
        exact .scaling (.quotient member (.inr ⟨infinite, infinite⟩))
    | false =>
        obtain ⟨commands, returned, nonneg⟩ :=
          processable _ 0 nominalNonneg nominalLe zero
        rw [processRecipe_eq nominalPositive (nonneg_of_pos nominalPositive)
            zero,
          boosted_zero, scaled_nominal nominalPositive infinite] at returned
        exact nonneg volume (Except.ok.inj returned ▸ member)
  · rintro ⟨nominalPositive, nonneg, valid⟩ targetVolume boost targetNonneg
      atMost inRange
    exact processed_nonneg keepsSign nominalPositive nonneg targetNonneg
      inRange (valid targetVolume boost targetNonneg atMost inRange)

/-- The document names an ingredient of the category to be dispensed. -/
def NamesCategory (store : IngredientStore) (doc : Json)
    (target : BoostCategory) : Prop :=
  ∃ named ∈ documentDispenses doc, category store named.1 = some target

theorem hasCategory_iff_names {doc : Json} {filePath : RecipePath}
    (accepted : parseRecipe toLitre store doc filePath = .ok recipe)
    {target : BoostCategory} :
    HasCategory store recipe.commands target ↔
      NamesCategory store doc target := by
  have dispenses := (parseRecipe_dispenses accepted).2
  constructor
  · rintro ⟨dispense, inRecipe, isCategory⟩
    have member : (dispense.ingredient, dispense.volume) ∈
        recipe.commands.dispenses :=
      mem_dispenses.mpr ⟨dispense, inRecipe, rfl, rfl⟩
    rw [dispenses] at member
    obtain ⟨named, inDocument, isNamed⟩ := List.mem_map.mp member
    obtain ⟨isIngredient, -⟩ := Prod.mk.inj isNamed
    refine ⟨named, inDocument, ?_⟩
    rw [isIngredient]
    exact isCategory
  · rintro ⟨named, inDocument, isCategory⟩
    have member : (named.1, toLitre named.2) ∈ recipe.commands.dispenses := by
      rw [dispenses]
      exact List.mem_map_of_mem inDocument
    obtain ⟨dispense, inRecipe, isIngredient, -⟩ := mem_dispenses.mp member
    refine ⟨dispense, inRecipe, ?_⟩
    rw [isIngredient]
    exact isCategory

section LargeTargets

variable {targetVolume : Float}
  (tooLarge : toMilliLitre targetVolume = infinity)

include tooLarge

theorem nominal_finite_of_valid
    (valid : ¬ InvalidScaling toMilliLitre recipe.nominalServingVolume
      targetVolume recipe.commands)
    {volume : Float} (member : volume ∈ recipe.commands.volumes) :
    (toMilliLitre recipe.nominalServingVolume).isInf = false := by
  refine Bool.eq_false_iff.mpr fun infinite => valid ?_
  refine .quotient member (.inr ⟨?_, infinite⟩)
  rw [tooLarge]
  decide

/-- Only positive volumes can be multiplied by infinity. -/
theorem volume_pos_of_processed
    (nominalPositive : 0 < toMilliLitre recipe.nominalServingVolume)
    (nominalFinite :
      (toMilliLitre recipe.nominalServingVolume).isInf = false)
    {commands : Commands Float}
    (processed : processRecipe toMilliLitre recipe 0 targetVolume store =
      .ok commands)
    (nonneg : ∀ volume ∈ commands.volumes, 0 ≤ volume)
    {volume : Float} (member : volume ∈ recipe.commands.volumes) :
    0 < volume := by
  have factor := scaleFactor_infinity tooLarge nominalPositive nominalFinite
  have zero : (0 : Float).abs ≤ 100 := by decide
  have targetNonneg : 0 ≤ toMilliLitre targetVolume := by
    rw [tooLarge]
    decide
  rw [processRecipe_eq nominalPositive targetNonneg zero, boosted_zero,
    scaled_of_far (factor ▸ not_nearOne_infinity), factor] at processed
  obtain rfl := Except.ok.inj processed
  apply pos_of_mul_infinity_nonneg
  exact nonneg _ (mem_volumes_scaleCommandsUniformly.mpr ⟨_, member, rfl⟩)

end LargeTargets

/-- Infinite volumes cannot be multiplied by zero. -/
theorem volume_finite_of_valid (keepsSign : KeepsSign toMilliLitre)
    (nominalPositive : 0 < toMilliLitre recipe.nominalServingVolume)
    (valid : ¬ InvalidScaling toMilliLitre recipe.nominalServingVolume 0
      recipe.commands)
    {volume : Float} (member : volume ∈ recipe.commands.volumes) :
    volume.isInf = false := by
  have isZero : (scaleFactor toMilliLitre recipe.nominalServingVolume 0 ==
      0) = true :=
    isZero_div (isZero_of_nonneg_of_nonpos
      (keepsSign.nonneg 0 (by decide)) keepsSign.zero) nominalPositive
  refine Bool.eq_false_iff.mpr fun infinite => valid ?_
  exact .product member (not_nearOne_zero isZero) (.inr ⟨infinite, isZero⟩)

/-- What a recipe is like that can be processed for every target volume: with
one that is too large, a volume of zero becomes no number, and so do the
volumes of two categories. -/
theorem ordinary_of_processable (leavesRange : LeavesRange toMilliLitre)
    (processable : ∀ targetVolume boost : Float, 0 ≤ targetVolume →
      targetVolume.isInf = false → boost.abs ≤ 100 → ∃ commands,
        processRecipe toMilliLitre recipe boost targetVolume store =
            .ok commands ∧
          ∀ volume ∈ commands.volumes, 0 ≤ volume) :
    0 < toMilliLitre recipe.nominalServingVolume ∧
      (∀ volume ∈ recipe.commands.volumes,
        (toMilliLitre recipe.nominalServingVolume).isInf = false ∧
          0 < volume ∧ volume.isInf = false) ∧
      ¬ (HasCategory store recipe.commands .boostable ∧
        HasCategory store recipe.commands .reducible) := by
  have keepsSign : KeepsSign toMilliLitre := leavesRange.toKeepsSign
  have zero : (0 : Float).abs ≤ 100 := by decide
  obtain ⟨large, largeNonneg, largeFinite, tooLarge⟩ := leavesRange.overflows
  have valid (targetVolume boost : Float) (targetNonneg : 0 ≤ targetVolume)
      (isFinite : targetVolume.isInf = false) (inRange : boost.abs ≤ 100) :
      ¬ InvalidProcessing toMilliLitre store recipe boost targetVolume :=
    valid_of_processed keepsSign targetNonneg
      (fun other => processable targetVolume other targetNonneg isFinite)
      inRange
  obtain ⟨empty, isEmpty, -⟩ := processable 0 0 (by decide) (by decide) zero
  obtain ⟨full, isFull, fullNonneg⟩ :=
    processable large 0 largeNonneg largeFinite zero
  have nominalPositive := nominal_pos_of_processRecipe isEmpty
  have nominalFinite : ∀ volume ∈ recipe.commands.volumes,
      (toMilliLitre recipe.nominalServingVolume).isInf = false :=
    fun volume => nominal_finite_of_valid tooLarge
      fun invalid => valid large 0 largeNonneg largeFinite zero (.scaling invalid)
  have positive : ∀ volume ∈ recipe.commands.volumes, 0 < volume :=
    fun volume member => volume_pos_of_processed tooLarge nominalPositive
      (nominalFinite volume member) isFull fullNonneg member
  refine ⟨nominalPositive, fun volume member =>
    ⟨nominalFinite volume member, positive volume member, ?_⟩, ?_⟩
  · exact volume_finite_of_valid keepsSign nominalPositive
      (fun invalid => valid 0 0 (by decide) (by decide) zero (.scaling invalid))
      member
  · rintro ⟨boostable, reducible⟩
    obtain ⟨volume, member⟩ := boostable.exists_volume
    exact valid large 100 largeNonneg largeFinite (by decide)
      (invalidProcessing_of_both leavesRange tooLarge nominalPositive
        (nominalFinite volume member) positive boostable reducible)

theorem processable_of_ordinary (keepsSign : KeepsSign toMilliLitre)
    (nominalPositive : 0 < toMilliLitre recipe.nominalServingVolume)
    (ordinary : ∀ volume ∈ recipe.commands.volumes,
      (toMilliLitre recipe.nominalServingVolume).isInf = false ∧
        0 < volume ∧ volume.isInf = false)
    (onlyOne : ¬ (HasCategory store recipe.commands .boostable ∧
      HasCategory store recipe.commands .reducible))
    {targetVolume boost : Float} (targetNonneg : 0 ≤ targetVolume)
    (inRange : boost.abs ≤ 100) :
    ∃ commands, processRecipe toMilliLitre recipe boost targetVolume store =
        .ok commands ∧
      ∀ volume ∈ commands.volumes, 0 ≤ volume := by
  have nonneg : ∀ volume ∈ recipe.commands.volumes, 0 ≤ volume :=
    fun volume member => nonneg_of_pos (ordinary volume member).2.1
  have validScaling : ¬ InvalidScaling toMilliLitre
      recipe.nominalServingVolume targetVolume recipe.commands := by
    rintro (⟨member, invalid⟩ | ⟨member, -, invalid⟩)
    · obtain ⟨isFinite, -⟩ := ordinary _ member
      rcases invalid with ⟨-, zero⟩ | ⟨-, infinite⟩
      · rw [ne_zero_of_pos nominalPositive] at zero
        cases zero
      · rw [isFinite] at infinite
        cases infinite
    · obtain ⟨-, positive, isFinite⟩ := ordinary _ member
      rcases invalid with ⟨zero, -⟩ | ⟨infinite, -⟩
      · rw [ne_zero_of_pos positive] at zero
        cases zero
      · rw [isFinite] at infinite
        cases infinite
  have within : (boost / 100).abs ≤ 1 :=
    abs_div_le_one inRange (by decide) (by decide)
  have scaledNonneg := scaled_nonneg nominalPositive
    (keepsSign.nonneg _ targetNonneg) validScaling nonneg
  refine processed_nonneg keepsSign nominalPositive nonneg targetNonneg inRange
    ?_
  rintro (invalid | ⟨-, invalid⟩)
  · exact validScaling invalid
  · refine not_invalidBoost_of_onlyOne keepsSign within scaledNonneg ?_ invalid
    rwa [hasCategory_scaled, hasCategory_scaled]

/-- An accepted recipe can be processed for every target volume and every boost,
into nonnegative volumes, exactly when its document names a positive nominal
serving volume, only positive volumes, and not both a boostable and a reducible
ingredient. -/
theorem processable_iff (leavesRange : LeavesRange toMilliLitre) (doc : Json)
    (filePath : RecipePath)
    (accepted : parseRecipe toLitre store doc filePath = .ok recipe) :
    (∀ targetVolume boost : Float, 0 ≤ targetVolume →
        targetVolume.isInf = false → boost.abs ≤ 100 → ∃ commands,
          processRecipe toMilliLitre recipe boost targetVolume store =
              .ok commands ∧
            ∀ volume ∈ commands.volumes, 0 ≤ volume) ↔
      0 < toMilliLitre (toLitre (nominalNumber doc)) ∧
        (∀ volume ∈ volumeNumbers doc,
          (toMilliLitre (toLitre (nominalNumber doc))).isInf = false ∧
            0 < toLitre volume ∧ (toLitre volume).isInf = false) ∧
        ¬ (NamesCategory store doc .boostable ∧
          NamesCategory store doc .reducible) := by
  have nominal := (parseRecipe_dispenses accepted).1
  have volumes := parseRecipe_volumes accepted
  rw [← hasCategory_iff_names accepted, ← hasCategory_iff_names accepted,
    ← List.forall_mem_map (f := toLitre) (P := fun volume =>
      (toMilliLitre (toLitre (nominalNumber doc))).isInf = false ∧
        0 < volume ∧ volume.isInf = false),
    ← volumes, ← nominal]
  constructor
  · exact ordinary_of_processable leavesRange
  · rintro ⟨nominalPositive, ordinary, onlyOne⟩ targetVolume boost targetNonneg
      - inRange
    exact processable_of_ordinary leavesRange.toKeepsSign nominalPositive
      ordinary onlyOne targetNonneg inRange

end MainResult

section Documents

theorem keepsSign_mul_thousand : KeepsSign fun volume => volume * 1000 where
  nonneg volume nonneg := by
    refine Binary64.mul_nonneg nonneg (by decide) ?_
    rintro (⟨-, infinite⟩ | ⟨-, zero⟩)
    · exact absurd infinite (by decide)
    · exact absurd zero (by decide)
  zero := by decide
  nonneg_of_pos volume positive := by
    have isNumber : volume.isNaN = false :=
      Bool.eq_false_iff.mpr fun isNaN =>
        not_nonneg_of_isNaN (isNaN_mul_of_left isNaN) (nonneg_of_pos positive)
    refine (exists_sign isNumber).resolve_right fun nonpos => ?_
    refine not_pos_of_nonpos (Binary64.mul_nonpos nonpos (by decide)
      ?_) positive
    rintro (⟨-, infinite⟩ | ⟨-, zero⟩)
    · exact absurd infinite (by decide)
    · exact absurd zero (by decide)

theorem leavesRange_mul_thousand : LeavesRange fun volume => volume * 1000 where
  toKeepsSign := keepsSign_mul_thousand
  infinite := by decide
  overflows := ⟨largest, by decide⟩

/-- A recipe document without a nominal serving volume. -/
def punchDocument : Json :=
  .object [("name", .string "Punch"),
    ("steps", .array [.object [("kind", .string "dispense"),
      ("ingredient", .string "rum"), ("volume", .integer 40)]])]

def punchRecipe : Recipe Float where
  id := "punch"
  displayName := "Punch"
  description := ""
  tags := []
  imagePath := ⟨"recipes", "punch", ".png"⟩
  nominalServingVolume := 0 / 1000
  commands := [.single (.dispense ⟨1, "rum", 40 / 1000⟩)]

theorem parse_punchDocument :
    parseRecipe (fun volume => volume / 1000) rumAndLime punchDocument
        ⟨"recipes", "punch", ".json"⟩ = .ok punchRecipe := by
  decide

theorem processable_iff_punch :
    (∀ targetVolume boost : Float, 0 ≤ targetVolume →
        targetVolume.isInf = false → boost.abs ≤ 100 → ∃ commands,
          processRecipe (fun volume => volume * 1000) punchRecipe boost
              targetVolume rumAndLime = .ok commands ∧
            ∀ volume ∈ commands.volumes, 0 ≤ volume) ↔
      0 < nominalNumber punchDocument / 1000 * 1000 ∧
        (∀ volume ∈ volumeNumbers punchDocument,
          (nominalNumber punchDocument / 1000 * 1000).isInf = false ∧
            0 < volume / 1000 ∧ (volume / 1000).isInf = false) ∧
        ¬ (NamesCategory rumAndLime punchDocument .boostable ∧
          NamesCategory rumAndLime punchDocument .reducible) := by
  have processable := processable_iff leavesRange_mul_thousand punchDocument
    ⟨"recipes", "punch", ".json"⟩ parse_punchDocument
  exact processable

/-- The recipe is accepted, and processing it fails at an assertion. -/
theorem punch_notProcessable :
    ¬ ∀ (doc : Json) (filePath : RecipePath) (recipe : Recipe Float)
      (targetVolume boost : Float),
      parseRecipe (fun volume => volume / 1000) rumAndLime doc filePath =
        .ok recipe →
      0 ≤ targetVolume → targetVolume.isInf = false → boost.abs ≤ 100 →
      ∃ commands,
        processRecipe (fun volume => volume * 1000) recipe boost targetVolume
            rumAndLime = .ok commands ∧
          ∀ volume ∈ commands.volumes, 0 ≤ volume := by
  intro processable
  obtain ⟨commands, returned, -⟩ := processable punchDocument
    ⟨"recipes", "punch", ".json"⟩ punchRecipe (200 / 1000) 0
    parse_punchDocument (by decide) (by decide) (by decide)
  have failed : processRecipe (fun volume => volume * 1000) punchRecipe 0
      (200 / 1000) rumAndLime =
        .error (.assertion "nominal_serving_volume must be positive") := by
    decide
  rw [failed] at returned
  cases returned

-- A volume that is zero, and a nominal volume that makes the factor infinite.
example : InvalidScaling (fun volume => volume * 1000) (ofRat (1 / 10 ^ 310))
    (200 / 1000) [.single (.dispense ⟨1, "rum", 0⟩)] := by
  refine .product (List.mem_singleton_self _) ?_ (.inl ⟨?_, ?_⟩) <;>
    decide +kernel

end Documents

end Doubles

end CocktailMaker
