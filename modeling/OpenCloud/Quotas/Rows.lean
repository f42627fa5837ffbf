import OpenCloud.Integrations.Listings
import OpenCloud.Lib.Binary64
import Mathlib.Data.List.Lex
import Mathlib.Data.String.Basic

/-!
# Rows of quotas

The cloud keeps the ceilings on the account and the use on each project, in the same rows.  A row
without a ceiling is unlimited.  How far a ceiling is used up is a float, rounded to one decimal; a
row is near its limit from eighty percent on.

## Main results

* `nearLimit_of_four_fifths`, `lt_share_of_nearLimit` : what the floats make of that bound.
-/

namespace OpenCloud

/-- A number of a quota document. -/
inductive Amount where
  | int (n : ℤ)
  | float (x : Double)
  deriving DecidableEq

namespace Amount

def val : Amount → ℚ
  | int n => n
  | float x => x.val

/-- `a / b`: integers are divided exactly and then rounded, anything else is a float before. -/
def div : Amount → Amount → Double
  | int m, int n => .ofRat (m / n)
  | a, b => .ofRat ((Double.ofRat a.val).val / (Double.ofRat b.val).val)

/-- `x or 0`. -/
def orZero : Option Amount → Amount
  | none => .int 0
  | some a => if a.val = 0 then .int 0 else a

end Amount

/-- `round(x, 1)`. -/
def roundTenth (x : Double) : Double := .ofRat (roundHalfEven (x.val * 10) / 10)

/-- An entry of `dependencies`. -/
structure QuotaDependency where
  type : Option String
  id : Option String

/-- A row of `/api/v2/quotas/limits/…`. -/
structure RawQuota where
  name : Option String
  displayName : Option String
  /-- The family of services. -/
  domain : Option String
  category : Option String
  units : Option String
  type : Option String
  /-- The ceiling, if it is a number. -/
  total : Option Amount
  allocated : Option Amount
  /-- Those that are objects. -/
  dependencies : List QuotaDependency

/-- A row of a quota page. -/
structure Quota where
  name : String
  displayName : String
  group : String
  category : String
  units : String
  kind : String
  allocated : Amount
  limit : Option Amount
  unlimited : Bool
  usedPercent : Option Double
  volumeTypeId : Option String
  volumeType : String
  media : String

/-- `_quota_volume_type`. -/
def quotaVolumeType (raw : RawQuota) : Option String :=
  (raw.dependencies.find? fun d => d.type = some "volume_type" ∧
    truthy d.id).bind QuotaDependency.id

/-- `round(allocated / total * 100, 1) if limited and total else None`. -/
def usedPercent (allocated : Amount) : Option Amount → Option Double
  | none => none
  | some total =>
    if total.val = 0 then none else some (roundTenth (.ofRat ((allocated.div total).val * 100)))

/-- `normalize_quota`. -/
def normalizeQuota (raw : RawQuota) : Quota :=
  let allocated := Amount.orZero raw.allocated
  { name := raw.name.getD ""
    displayName := orElse (raw.displayName.getD "") (raw.name.getD "")
    group := raw.domain.getD ""
    category := raw.category.getD ""
    units := raw.units.getD ""
    kind := orElse (raw.type.getD "") "count"
    allocated := allocated
    limit := raw.total
    unlimited := raw.total.isNone
    usedPercent := usedPercent allocated raw.total
    volumeTypeId := quotaVolumeType raw
    volumeType := ""
    media := "" }

/-- `label_quota_media`, on one row. -/
def labelQuotaMedia (types : Dict String VolumeType) (row : Quota) : Quota :=
  match types.get? (row.volumeTypeId.getD "") with
  | some entry => { row with volumeType := entry.name, media := entry.media }
  | none => { row with volumeType := "", media := "" }

namespace Quota

/-- The key of the order of a page. -/
def key (c : Casing) (q : Quota) : List String :=
  [q.group, q.category, q.media, c.lower q.displayName]

def le (c : Casing) (a b : Quota) : Prop := a.key c ≤ b.key c

instance (c : Casing) : DecidableRel (le c) :=
  fun a b => inferInstanceAs (Decidable (a.key c ≤ b.key c))

/-- `(q['usedPercent'] or 0) >= 80`. -/
def nearLimit (q : Quota) : Bool := 80 ≤ (q.usedPercent.map Double.val).getD 0

end Quota

/-- `_list_quotas`, once the rows and the volume types have been read. -/
def listedQuotas (c : Casing) (types : Except ZadaraError (List RawVolumeType))
    (raw : List RawQuota) : List Quota :=
  let index := match types with
    | .ok raw => classifyVolumeTypes c raw
    | .error _ => []
  (raw.map fun row => labelQuotaMedia index (normalizeQuota row)).insertionSort (Quota.le c)

/-! ### The rows of a document -/

/-- A row of a page says what the row of the document does. -/
structure ShowsRow (raw : RawQuota) (row : Quota) : Prop where
  name : row.name = raw.name.getD ""
  displayName : row.displayName = orElse (raw.displayName.getD "") row.name
  group : row.group = raw.domain.getD ""
  category : row.category = raw.category.getD ""
  units : row.units = raw.units.getD ""
  allocated : row.allocated.val = (raw.allocated.map Amount.val).getD 0
  limit : row.limit = raw.total
  unlimited : row.unlimited = true ↔ raw.total = none

@[simp] theorem Amount.val_orZero (a : Option Amount) :
    (Amount.orZero a).val = (a.map Amount.val).getD 0 := by
  cases a with
  | none => rfl
  | some a =>
    unfold Amount.orZero
    dsimp only
    split_ifs with hzero
    · exact hzero.symm
    · rfl

theorem showsRow_normalizeQuota (raw : RawQuota) : ShowsRow raw (normalizeQuota raw) := by
  constructor <;> simp [normalizeQuota]

theorem ShowsRow.label {raw : RawQuota} {row : Quota} (h : ShowsRow raw row)
    (index : Dict String VolumeType) :
    ShowsRow raw (labelQuotaMedia index row) := by
  unfold labelQuotaMedia
  split
  · exact { h with }
  · exact { h with }

theorem exists_showsRow_listedQuotas (c : Casing) (types : Except ZadaraError (List RawVolumeType))
    (raw : List RawQuota) : ∃ shown : List Quota, shown.Perm (listedQuotas c types raw) ∧
      List.Forall₂ ShowsRow raw shown := by
  refine ⟨_, (List.perm_insertionSort _ _).symm, ?_⟩
  exact List.forall₂_map_right_iff.2 (List.forall₂_same.2 fun raw _ =>
    (showsRow_normalizeQuota raw).label _)

/-! ### Near the limit -/

/-- Rounding to the even tenth reaches eighty from 79.95 on. -/
theorem eighty_le_roundTenth_iff {x : Double} : 80 ≤ (roundTenth x).val ↔ 1599 / 20 ≤ x.val := by
  have htenth : (1599 : ℚ) / 20 ≤ x.val ↔ 800 ≤ roundHalfEven (x.val * 10) := by
    constructor
    · intro h
      have hhalf : roundHalfEven (1599 / 2) = 800 := by decide +kernel
      rw [← hhalf]
      exact roundHalfEven_mono (by linarith)
    · intro h
      have hnear := abs_le.1 (abs_roundHalfEven_sub_le (x.val * 10))
      have hcast : (800 : ℚ) ≤ ((roundHalfEven (x.val * 10) : ℤ) : ℚ) := by exact_mod_cast h
      linarith [hnear.2]
  rw [htenth, roundTenth]
  constructor
  · intro h
    by_contra hlt
    have hle : ((roundHalfEven (x.val * 10) : ℤ) : ℚ) / 10 ≤ 799 / 10 := by
      have hint : roundHalfEven (x.val * 10) ≤ 799 := by omega
      have hcast : ((roundHalfEven (x.val * 10) : ℤ) : ℚ) ≤ 799 := by exact_mod_cast hint
      linarith
    have hbelow : rnd (799 / 10) < 80 := by decide +kernel
    exact absurd (h.trans (rnd_mono hle)) (not_le.2 hbelow)
  · intro h
    have heighty : rnd 80 = 80 := by decide +kernel
    have hcast : (800 : ℚ) ≤ ((roundHalfEven (x.val * 10) : ℤ) : ℚ) := by exact_mod_cast h
    show (80 : ℚ) ≤ rnd _
    rw [← heighty]
    exact rnd_mono (by linarith)

theorem eighty_le_percent {q : Double} (h : 79999 / 100000 ≤ q.val) :
    80 ≤ (roundTenth (.ofRat (q.val * 100))).val := by
  rw [eighty_le_roundTenth_iff]
  have hbound : (1599 : ℚ) / 20 ≤ rnd (79999 / 100000 * 100) := by decide +kernel
  exact hbound.trans (rnd_mono (by linarith))

theorem percent_lt_eighty {q : Double} (h : q.val ≤ 7992 / 10000) :
    ¬ 80 ≤ (roundTenth (.ofRat (q.val * 100))).val := by
  rw [eighty_le_roundTenth_iff, not_le]
  have hbound : rnd (7992 / 10000 * 100) < 1599 / 20 := by decide +kernel
  exact lt_of_le_of_lt (rnd_mono (by linarith)) hbound

section Near

variable {a t : ℚ}

theorem le_rnd_div_of_pos (ht : 0 < t) (h : 4 / 5 ≤ a / t) : 799995 / 1000000 ≤ rnd a / rnd t := by
  rw [le_div_iff₀ ht] at h
  have hat := abs_le.1 (abs_rnd_sub_le a)
  have htt := abs_le.1 (abs_rnd_sub_le t)
  rw [abs_of_pos ht] at htt
  rw [abs_of_pos (by linarith : (0 : ℚ) < a)] at hat
  have hpos : 0 < rnd t := by linarith [htt.1]
  rw [le_div_iff₀ hpos]
  linarith [hat.1, htt.2]

theorem le_rnd_div (h : 4 / 5 ≤ a / t) : 799995 / 1000000 ≤ rnd a / rnd t := by
  rcases lt_trichotomy t 0 with hneg | rfl | hpos
  · rw [← neg_div_neg_eq (rnd a), ← rnd_neg, ← rnd_neg]
    exact le_rnd_div_of_pos (neg_pos.2 hneg) (by rwa [neg_div_neg_eq])
  · rw [div_zero] at h
    exact absurd h (by norm_num)
  · exact le_rnd_div_of_pos hpos h

theorem rnd_div_le_of_pos (ht : 0 < t) (h : a / t ≤ 799 / 1000) : rnd a / rnd t ≤ 7991 / 10000 := by
  rw [div_le_iff₀ ht] at h
  have hmono : rnd a ≤ rnd (799 / 1000 * t) := rnd_mono h
  have hat := abs_le.1 (abs_rnd_sub_le (799 / 1000 * t))
  have htt := abs_le.1 (abs_rnd_sub_le t)
  rw [abs_of_pos ht] at htt
  rw [abs_of_pos (by linarith : (0 : ℚ) < 799 / 1000 * t)] at hat
  have hpos : 0 < rnd t := by linarith [htt.1]
  rw [div_le_iff₀ hpos]
  linarith [hat.2, htt.1]

theorem rnd_div_le (h : a / t ≤ 799 / 1000) : rnd a / rnd t ≤ 7991 / 10000 := by
  rcases lt_trichotomy t 0 with hneg | rfl | hpos
  · rw [← neg_div_neg_eq (rnd a), ← rnd_neg, ← rnd_neg]
    exact rnd_div_le_of_pos (neg_pos.2 hneg) (by rwa [neg_div_neg_eq])
  · rw [rnd_zero, div_zero]
    norm_num
  · exact rnd_div_le_of_pos hpos h

end Near

namespace Amount

variable {a t : Amount}

theorem le_val_div (h : 4 / 5 ≤ a.val / t.val) : 79999 / 100000 ≤ (a.div t).val := by
  have hfloats : 79999 / 100000 ≤ rnd (rnd a.val / rnd t.val) := by
    have hbound : (79999 : ℚ) / 100000 ≤ rnd (799995 / 1000000) := by decide +kernel
    exact hbound.trans (rnd_mono (le_rnd_div h))
  cases a with
  | float x => exact hfloats
  | int m =>
    cases t with
    | float y => exact hfloats
    | int n =>
      have hbound : (79999 : ℚ) / 100000 ≤ rnd (4 / 5) := by decide +kernel
      exact hbound.trans (rnd_mono h)

theorem val_div_le (h : a.val / t.val ≤ 799 / 1000) : (a.div t).val ≤ 7992 / 10000 := by
  have hfloats : rnd (rnd a.val / rnd t.val) ≤ 7992 / 10000 := by
    have hbound : rnd (7991 / 10000) ≤ 7992 / 10000 := by decide +kernel
    exact (rnd_mono (rnd_div_le h)).trans hbound
  cases a with
  | float x => exact hfloats
  | int m =>
    cases t with
    | float y => exact hfloats
    | int n =>
      have hbound : rnd (799 / 1000) ≤ 7992 / 10000 := by decide +kernel
      exact (rnd_mono h).trans hbound

end Amount

/-- How much of its ceiling a row uses; of no ceiling, and of a ceiling of zero, it is nothing. -/
def RawQuota.share (raw : RawQuota) : ℚ :=
  match raw.total with
  | none => 0
  | some total => (Amount.orZero raw.allocated).val / total.val

section

variable {c : Casing} {types : Except ZadaraError (List RawVolumeType)}
  {index : Dict String VolumeType} {row : RawQuota}

@[simp] theorem labelQuotaMedia_unlimited {q : Quota} :
    (labelQuotaMedia index q).unlimited = q.unlimited := by
  unfold labelQuotaMedia
  split <;> rfl

@[simp] theorem labelQuotaMedia_nearLimit {q : Quota} :
    (labelQuotaMedia index q).nearLimit = q.nearLimit := by
  unfold labelQuotaMedia
  split <;> rfl

/-- From four fifths on a row is near its limit. -/
theorem nearLimit_of_four_fifths (h : 4 / 5 ≤ row.share) :
    (normalizeQuota row).nearLimit = true := by
  rw [Quota.nearLimit, decide_eq_true_iff]
  unfold RawQuota.share at h
  cases htotal : row.total with
  | none =>
    rw [htotal] at h
    exact absurd h (by norm_num)
  | some total =>
    rw [htotal] at h
    dsimp only at h
    have hne : total.val ≠ 0 := by
      intro hzero
      rw [hzero, div_zero] at h
      exact absurd h (by norm_num)
    simp only [normalizeQuota, htotal, usedPercent, if_neg hne]
    exact eighty_le_percent (Amount.le_val_div h)

/-- And only one that uses about that much is. -/
theorem lt_share_of_nearLimit (h : (normalizeQuota row).nearLimit = true) :
    799 / 1000 < row.share := by
  rw [Quota.nearLimit, decide_eq_true_iff] at h
  unfold RawQuota.share
  cases htotal : row.total with
  | none =>
    simp only [normalizeQuota, htotal, usedPercent] at h
    exact absurd h (by norm_num)
  | some total =>
    simp only [normalizeQuota, htotal, usedPercent] at h
    split_ifs at h with hzero
    · exact absurd h (by norm_num)
    · by_contra hle
      exact percent_lt_eighty (Amount.val_div_le (not_lt.1 hle)) h

theorem limited_of_share (h : 0 < row.share) : (normalizeQuota row).unlimited = false := by
  unfold RawQuota.share at h
  cases htotal : row.total with
  | none =>
    rw [htotal] at h
    exact absurd h (lt_irrefl 0)
  | some total => simp only [normalizeQuota, htotal, Option.isNone_some]

theorem countP_listedQuotas (c : Casing) (types : Except ZadaraError (List RawVolumeType))
    (p : Quota → Bool) (raw : List RawQuota) : ∃ index,
    (listedQuotas c types raw).countP p = raw.countP fun row =>
      p (labelQuotaMedia index (normalizeQuota row)) := by
  unfold listedQuotas
  dsimp only
  generalize (match types with
    | .ok raw => classifyVolumeTypes c raw
    | .error _ => []) = index
  refine ⟨index, ?_⟩
  rw [(List.perm_insertionSort _ _).countP_eq, List.countP_map]
  rfl

end

end OpenCloud
