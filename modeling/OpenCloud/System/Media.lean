import OpenCloud.Platform.Attribution
import Mathlib.Data.Set.Insert

/-!
# The medium of a disk

A volume names its type, and a type says in its own text what it sits on, or shares a storage class
with types that say so.  What a type takes from its class is never handed on, and where the class
says two things, or nothing, the type stays unlabelled.

## Main results

* `mem_siblings`, `mediumOf_of_mem` : what the two loops of `_classify_volume_types` make of a list
  of types.
* `classifyVolumeTypes_sound` : the medium of a type does not depend on the order of the list, is
  inherited from its class exactly where that is of one medium, and every volume is counted once,
  under the medium of its type.
-/

namespace OpenCloud

/-- What the text of a type says. -/
def RawVolumeType.ownMedia (c : Casing) (entry : RawVolumeType) : String :=
  mediaFromText c (entry.name.getD "" ++ " " ++ entry.description.getD "")

/-- The class of a type, empty if it has none. -/
def RawVolumeType.storageClass (entry : RawVolumeType) : String := entry.storageClassId.getD ""

/-- The media that the types of a class say in their own texts. -/
def settledMedia (c : Casing) (raw : List RawVolumeType) (storageClass : String) : Set String :=
  {m | m ≠ "" ∧ ∃ entry ∈ raw, (keep entry.id).isSome ∧ entry.storageClass = storageClass ∧
    entry.ownMedia c = m}

/-- The medium of a type, empty if it is not known. -/
def mediumOf (c : Casing) (raw : List RawVolumeType) (id : String) : Option String :=
  ((classifyVolumeTypes c raw).get? id).map fun entry => entry.media

/-- The volumes are counted by medium: each in the total of its own, and what is unlabelled last. -/
structure CountedByMedium (volumes : List ListedVolume) (medium : ListedVolume → String)
    (totals : List MediaTotal) : Prop where
  once : (totals.map MediaTotal.media).Nodup
  media : ∀ m, m ∈ totals.map MediaTotal.media ↔ ∃ v ∈ volumes, medium v = m
  counted : ∀ t ∈ totals, t.volumes = (volumes.filter fun v => medium v = t.media).length ∧
    t.totalGiB = tally (fun v => v.sizeGiB) (volumes.filter fun v => medium v = t.media)
  conserved : tally (fun t => t.totalGiB) totals = tally (fun v => v.sizeGiB) volumes
  last : ∀ t ∈ totals, t.media = "" → totals.getLast? = some t

/-- The media of a list of types can be relied on. -/
structure SoundMedia (c : Casing) (raw : List RawVolumeType) : Prop where
  perm : ∀ raw', raw.Perm raw' → ∀ id, mediumOf c raw' id = mediumOf c raw id
  labelled : ∀ entry ∈ raw, ∀ id, keep entry.id = some id → (mediumOf c raw id).isSome
  own : ∀ entry ∈ raw, ∀ id, keep entry.id = some id → entry.ownMedia c ≠ "" →
    mediumOf c raw id = some (entry.ownMedia c)
  inherited : ∀ entry ∈ raw, ∀ id, keep entry.id = some id → entry.ownMedia c = "" → ∀ m, m ≠ "" →
    (mediumOf c raw id = some m ↔
      entry.storageClass ≠ "" ∧ settledMedia c raw entry.storageClass = {m})
  totals : ∀ volumes : List ListedVolume, CountedByMedium volumes
    (fun v => (mediumOf c raw (v.volumeTypeId.getD "")).getD "")
    (mediaTotals (volumes.map fun v => (labelVolumeMedia (classifyVolumeTypes c raw) v).toVolume))

/-! ### The types by id -/

section Types

variable {c : Casing} {raw raw' : List RawVolumeType} {entry : RawVolumeType} {id : String}

/-- The entry of a type with an id, after the first loop. -/
def typeEntry (c : Casing) (entry : RawVolumeType) : Option (String × VolumeType) :=
  (keep entry.id).map fun id => (id, ⟨entry.name.getD "", entry.storageClass, entry.ownMedia c⟩)

theorem typeEntry_eq (hid : keep entry.id = some id) :
    typeEntry c entry = some (id, ⟨entry.name.getD "", entry.storageClass, entry.ownMedia c⟩) := by
  rw [typeEntry, hid]
  rfl

theorem volumeTypesByText_eq : volumeTypesByText c raw =
    (raw.filterMap (typeEntry c)).foldl (fun (types : Dict String VolumeType) e =>
      types.set e.1 e.2) [] := by
  rw [List.foldl_filterMap]
  unfold volumeTypesByText
  congr 1
  funext types entry
  unfold typeEntry
  cases keep entry.id <;> rfl

theorem keys_typeEntry : Dict.keys (raw.filterMap (typeEntry c)) = raw.filterMap fun entry =>
    keep entry.id := by
  unfold Dict.keys
  rw [List.map_filterMap]
  congr 1
  funext entry
  unfold typeEntry
  cases keep entry.id <;> rfl

theorem nodup_volumeTypesByText : (volumeTypesByText c raw).keys.Nodup := by
  rw [volumeTypesByText_eq]
  exact @Dict.nodup_keys_foldl_set _ _ _ _ [] _ _ List.nodup_nil _

theorem mem_volumeTypesByText (hids : (raw.filterMap fun entry => keep entry.id).Nodup)
    {e : String × VolumeType} :
    e ∈ volumeTypesByText c raw ↔ ∃ entry ∈ raw, typeEntry c entry = some e := by
  have hkeys : (Dict.keys (raw.filterMap (typeEntry c))).Nodup := by rwa [keys_typeEntry]
  rw [← List.mem_filterMap, ← Prod.mk.eta (p := e), Dict.mem_iff_get? nodup_volumeTypesByText,
    Dict.mem_iff_get? hkeys, volumeTypesByText_eq,
      @Dict.get?_foldl_set_entries _ _ _ _ _ _ _ (fun t => t) hkeys]
  simp [Dict.get?]

/-! ### The media of a class -/

/-- The media that the types of a class say, in the order they come. -/
def siblings (types : Dict String VolumeType) (storageClass : String) : List String :=
  ((mediaByClass types).get? storageClass).getD []

/-- A loop that puts what is not there yet at the end. -/
theorem foldl_insert {α : Type*} {f : α → String} {items : List α} {media : List String} :
    (media.Nodup →
      (items.foldl (fun media a => if f a ∈ media then media else media ++ [f a]) media).Nodup) ∧
      ∀ m, m ∈ items.foldl (fun media a => if f a ∈ media then media else media ++ [f a]) media ↔
        m ∈ media ∨ ∃ a ∈ items, f a = m := by
  induction items generalizing media with
  | nil => exact ⟨fun h => h, fun m => by simp⟩
  | cons a items ih =>
    rw [List.foldl_cons]
    by_cases ha : f a ∈ media
    · rw [if_pos ha]
      refine ⟨ih.1, fun m => ?_⟩
      rw [ih.2, List.exists_mem_cons_iff]
      constructor
      · rintro (hm | hm)
        · exact .inl hm
        · exact .inr (.inr hm)
      · rintro (hm | rfl | hm)
        · exact .inl hm
        · exact .inl ha
        · exact .inr hm
    · rw [if_neg ha]
      refine ⟨fun h => ih.1 ?_, fun m => ?_⟩
      · exact List.nodup_append.2 ⟨h, List.nodup_singleton _, fun x hx y hy hxy =>
          ha (List.mem_singleton.1 hy ▸ hxy ▸ hx)⟩
      · rw [ih.2, List.mem_append, List.mem_singleton, List.exists_mem_cons_iff, or_assoc, eq_comm]

/-- The class for which a type says its medium. -/
def spokenFor (e : String × VolumeType) : Option String :=
  if e.2.media ≠ "" ∧ e.2.storageClassId ≠ "" then some e.2.storageClassId else none

theorem siblings_eq (types : Dict String VolumeType) (storageClass : String) :
    siblings types storageClass =
    (types.filter fun e => spokenFor e = some storageClass).foldl
      (fun media e => if e.2.media ∈ media then media else media ++ [e.2.media]) [] := by
  have hcollect : mediaByClass types = Dict.collect spokenFor []
      (fun e media => if e.2.media ∈ media then media else media ++ [e.2.media]) [] types := by
    unfold mediaByClass Dict.collect
    congr 1
    funext byClass e
    unfold spokenFor
    split_ifs <;> rfl
  rw [siblings, hcollect, Dict.getD_collect]
  rfl

theorem nodup_siblings (types : Dict String VolumeType) (storageClass : String) :
    (siblings types storageClass).Nodup := by
  rw [siblings_eq]
  exact foldl_insert.1 List.nodup_nil

/-- What a class says: a medium that one of its types says itself. -/
theorem mem_siblings {types : Dict String VolumeType} {storageClass m : String} :
    m ∈ siblings types storageClass ↔
    storageClass ≠ "" ∧ m ≠ "" ∧ ∃ e ∈ types, e.2.storageClassId = storageClass ∧
      e.2.media = m := by
  rw [siblings_eq, foldl_insert.2]
  constructor
  · rintro (hm | ⟨e, he, rfl⟩)
    · cases hm
    · obtain ⟨hmem, hkey⟩ := List.mem_filter.1 he
      have hkey := of_decide_eq_true hkey
      unfold spokenFor at hkey
      split_ifs at hkey with hsaid
      cases hkey
      exact ⟨hsaid.2, hsaid.1, e, hmem, rfl, rfl⟩
  · rintro ⟨hclass, hm, e, hmem, rfl, rfl⟩
    refine .inr ⟨e, List.mem_filter.2 ⟨hmem, decide_eq_true ?_⟩, rfl⟩
    rw [spokenFor, if_pos ⟨hm, hclass⟩]

/-! ### The medium of a type -/

/-- The element of a list of one, and otherwise nothing. -/
def theOnly : List String → String
  | [m] => m
  | _ => ""

theorem theOnly_eq_iff {media : List String} {m : String} (hm : m ≠ "") : theOnly media = m ↔
    media = [m] := by
  obtain _ | ⟨m', _ | ⟨m'', media⟩⟩ := media
  · exact ⟨fun h => absurd h.symm hm, fun h => by cases h⟩
  · exact ⟨fun h => congrArg (fun x => [x]) h, fun h => (List.cons.inj h).1⟩
  · exact ⟨fun h => absurd h.symm hm, fun h => by cases h⟩

theorem theOnly_perm {media media' : List String} (h : media.Perm media') :
    theOnly media = theOnly media' := by
  by_cases hempty : theOnly media = ""
  · by_cases hempty' : theOnly media' = ""
    · rw [hempty, hempty']
    · rw [(theOnly_eq_iff hempty').1 rfl, List.perm_singleton] at h
      rw [h]
      rfl
  · rw [(theOnly_eq_iff hempty).1 rfl, List.singleton_perm] at h
    rw [← h]
    rfl

theorem mediumOf_eq (c : Casing) (raw : List RawVolumeType) (id : String) :
    mediumOf c raw id = ((volumeTypesByText c raw).get? id).map fun t =>
      if t.media ≠ "" then
        t.media else theOnly (siblings (volumeTypesByText c raw) t.storageClassId) := by
  unfold mediumOf classifyVolumeTypes
  dsimp only
  rw [Dict.get?_map, Option.map_map]
  · congr 1
    funext t
    dsimp only [Function.comp]
    by_cases ht : t.media ≠ ""
    · rw [if_pos ht, if_pos ht]
    · rw [if_neg ht, if_neg ht]
      unfold siblings
      generalize ((mediaByClass (volumeTypesByText c raw)).get? t.storageClassId).getD [] = media
      obtain _ | ⟨m, _ | ⟨m', media⟩⟩ := media
      · exact not_not.1 ht
      · rfl
      · exact not_not.1 ht
  · intro e
    split_ifs
    · rfl
    · split <;> rfl

variable (hids : (raw.filterMap fun entry => keep entry.id).Nodup)

include hids

theorem mem_siblings_iff {storageClass m : String} :
    m ∈ siblings (volumeTypesByText c raw) storageClass ↔
      storageClass ≠ "" ∧ m ∈ settledMedia c raw storageClass := by
  rw [mem_siblings]
  refine and_congr_right fun _ => and_congr_right fun _ => ?_
  constructor
  · rintro ⟨e, he, hclass, hm⟩
    obtain ⟨entry, hmem, hentry⟩ := (mem_volumeTypesByText hids).1 he
    obtain ⟨id, hid, rfl⟩ := Option.map_eq_some_iff.1 hentry
    exact ⟨entry, hmem, by rw [hid]; rfl, hclass, hm⟩
  · rintro ⟨entry, hmem, hid, hclass, hm⟩
    obtain ⟨id, hid⟩ := Option.isSome_iff_exists.1 hid
    exact ⟨_, (mem_volumeTypesByText hids).2 ⟨entry, hmem, typeEntry_eq hid⟩, hclass, hm⟩

theorem siblings_eq_singleton_iff {storageClass m : String} :
    siblings (volumeTypesByText c raw) storageClass = [m] ↔
    storageClass ≠ "" ∧ settledMedia c raw storageClass = {m} := by
  rw [← List.perm_singleton,
    List.perm_ext_iff_of_nodup (nodup_siblings ..) (List.nodup_singleton m)]
  simp only [mem_siblings_iff hids, List.mem_singleton]
  constructor
  · intro h
    have hclass := ((h m).2 rfl).1
    exact ⟨hclass, Set.ext fun x => ⟨fun hx => (h x).1 ⟨hclass, hx⟩, fun hx => ((h x).2 hx).2⟩⟩
  · rintro ⟨hclass, hsettled⟩ x
    rw [hsettled]
    exact ⟨And.right, fun hx => ⟨hclass, hx⟩⟩

/-- The medium of a type of the list. -/
theorem mediumOf_of_mem (hmem : entry ∈ raw) (hid : keep entry.id = some id) : mediumOf c raw id =
    some (if entry.ownMedia c ≠ "" then entry.ownMedia c
      else theOnly (siblings (volumeTypesByText c raw) entry.storageClass)) := by
  have htype := (mem_volumeTypesByText hids).2 ⟨entry, hmem, typeEntry_eq (c := c) hid⟩
  have hget := (Dict.mem_iff_get? nodup_volumeTypesByText).1 htype
  rw [mediumOf_eq, hget]
  rfl

/-- Another order of the list has the same types, and its classes say the same. -/
theorem mediumOf_perm (h : raw.Perm raw') : mediumOf c raw' id = mediumOf c raw id := by
  have hids' := (h.filterMap fun entry => keep entry.id).nodup_iff.1 hids
  have htypes : (volumeTypesByText c raw').get? id = (volumeTypesByText c raw).get? id := by
    refine Option.ext fun t => ?_
    rw [← Dict.mem_iff_get? nodup_volumeTypesByText, ← Dict.mem_iff_get? nodup_volumeTypesByText,
      mem_volumeTypesByText hids, mem_volumeTypesByText hids']
    simp only [h.mem_iff]
  have hsettled : ∀ storageClass, settledMedia c raw' storageClass =
    settledMedia c raw storageClass := by
    intro storageClass
    unfold settledMedia
    simp only [h.mem_iff]
  have hsiblings : ∀ storageClass, theOnly (siblings (volumeTypesByText c raw') storageClass) =
      theOnly (siblings (volumeTypesByText c raw) storageClass) := by
    intro storageClass
    refine theOnly_perm ((List.perm_ext_iff_of_nodup (nodup_siblings ..) (nodup_siblings ..)).2
      fun m => ?_)
    rw [mem_siblings_iff hids, mem_siblings_iff hids', hsettled]
  rw [mediumOf_eq, mediumOf_eq, htypes]
  simp only [hsiblings]

end Types

/-! ### The totals -/

instance : Std.Total MediaTotal.le where
  total a b := by
    unfold MediaTotal.le
    by_cases ha : a.media = ""
    · by_cases hb : b.media = ""
      · simp only [ha, hb, ne_eq, not_true_eq_false, false_and, true_and, false_or]
        exact Nat.le_total _ _
      · exact .inr (.inl ⟨hb, ha⟩)
    · by_cases hb : b.media = ""
      · exact .inl (.inl ⟨ha, hb⟩)
      · simp only [ha, hb, ne_eq, not_false_eq_true, and_false, true_and, false_or]
        exact Nat.le_total _ _

instance : IsTrans MediaTotal MediaTotal.le where
  trans a b t hab hbt := by
    unfold MediaTotal.le at *
    rcases hab with ⟨ha, hb⟩ | ⟨hab, hle⟩
    · rcases hbt with ⟨hb', -⟩ | ⟨hbt, -⟩
      · exact absurd hb hb'
      · exact .inl ⟨ha, hbt.1 hb⟩
    · rcases hbt with ⟨hb, ht⟩ | ⟨hbt, hle'⟩
      · exact .inl ⟨fun ha => hb (hab.1 ha), ht⟩
      · exact .inr ⟨hab.trans hbt, hle'.trans hle⟩

theorem map_media_perm (volumes : List Volume) : ((mediaTotals volumes).map MediaTotal.media).Perm
    (Dict.collect (fun v : Volume => some v.media) ⟨0, 0⟩ MediaTally.add [] volumes).keys := by
  refine ((List.perm_insertionSort _ _).map _).trans ?_
  rw [List.map_map]
  exact List.Perm.refl _

theorem nodup_media (volumes : List Volume) : ((mediaTotals volumes).map MediaTotal.media).Nodup :=
  (map_media_perm volumes).nodup_iff.2 (@Dict.nodup_keys_collect _ _ _ _ [] _ _ _ List.nodup_nil _)

theorem mem_media_iff {volumes : List Volume} {m : String} :
    m ∈ (mediaTotals volumes).map MediaTotal.media ↔ ∃ v ∈ volumes, v.media = m := by
  have hcollect :=
    Dict.isSome_collect (fun v : Volume => some v.media) ⟨0, 0⟩ MediaTally.add [] volumes m
  rw [(map_media_perm volumes).mem_iff, ← not_iff_not, ← Dict.get?_eq_none_iff,
    ← Option.not_isSome_iff_eq_none, hcollect]
  simp [Dict.get?]

theorem toMediaTally_of_mem {volumes : List Volume} {t : MediaTotal}
    (ht : t ∈ mediaTotals volumes) :
    t.volumes = (volumes.filter fun v => v.media = t.media).length ∧
      t.totalGiB = tally Volume.sizeGiB (volumes.filter fun v => v.media = t.media) := by
  have hnodup : Dict.keys ((mediaTotals volumes).map fun t => (t.media, t.toMediaTally)) =
      (mediaTotals volumes).map MediaTotal.media := by
    unfold Dict.keys
    rw [List.map_map]
    rfl
  have hget := (Dict.mem_iff_get? (hnodup ▸ nodup_media volumes)).1
    (List.mem_map_of_mem (f := fun t : MediaTotal => (t.media, t.toMediaTally)) ht)
  have hon := mediaOn_mediaTotals volumes t.media
  rw [mediaOn, hget, Option.getD_some] at hon
  exact ⟨congrArg MediaTally.volumes hon, congrArg MediaTally.totalGiB hon⟩

/-- The total of what is unlabelled comes last: whatever followed it would be unlabelled too. -/
theorem getLast?_mediaTotals {volumes : List Volume} {t : MediaTotal} (ht : t ∈ mediaTotals volumes)
    (hmedia : t.media = "") : (mediaTotals volumes).getLast? = some t := by
  have hsorted : (mediaTotals volumes).Pairwise MediaTotal.le := List.pairwise_insertionSort _ _
  have hnodup := nodup_media volumes
  obtain ⟨before, after, hsplit⟩ := List.append_of_mem ht
  rw [hsplit] at hsorted hnodup ⊢
  cases after with
  | nil => exact List.getLast?_concat
  | cons t' after =>
    have hle : t.le t' :=
      (List.pairwise_cons.1 (List.pairwise_append.1 hsorted).2.1).1 t' (List.mem_cons_self ..)
    have hmedia' : t'.media = "" := by
      rcases hle with ⟨hne, -⟩ | ⟨hiff, -⟩
      · exact absurd hmedia hne
      · exact hiff.1 hmedia
    rw [List.map_append, List.map_cons, List.map_cons] at hnodup
    refine absurd ?_ (List.nodup_cons.1 (List.nodup_append.1 hnodup).2.1).1
    rw [hmedia, hmedia']
    exact List.mem_cons_self ..

/-- Volumes with a label each are counted by their labels. -/
theorem countedByMedium_of_label {volumes : List ListedVolume} {medium : ListedVolume → String}
    {label : ListedVolume → ListedVolume} (hmedia : ∀ v, (label v).media = medium v)
    (hsize : ∀ v, (label v).sizeGiB = v.sizeGiB) :
    CountedByMedium volumes medium (mediaTotals (volumes.map fun v => (label v).toVolume)) := by
  have hfilter : ∀ m, ((volumes.map fun v => (label v).toVolume).filter fun v => v.media = m) =
      (volumes.filter fun v => medium v = m).map fun v => (label v).toVolume := by
    intro m
    rw [List.filter_map]
    simp only [Function.comp_def, hmedia]
  constructor
  case once => exact nodup_media _
  case media =>
    intro m
    rw [mem_media_iff]
    simp only [List.mem_map, exists_exists_and_eq_and, hmedia]
  case counted =>
    intro t ht
    obtain ⟨hvolumes, htotal⟩ := toMediaTally_of_mem ht
    rw [hfilter] at hvolumes htotal
    rw [List.length_map] at hvolumes
    rw [tally_map] at htotal
    simp only [hsize] at htotal
    exact ⟨hvolumes, htotal⟩
  case conserved =>
    have hall := capacityOn_mediaTotals (fun _ => True) (volumes.map fun v => (label v).toVolume)
    unfold capacityOn at hall
    simp only [decide_true, List.filter_true, tally_map, hsize] at hall
    exact hall
  case last => exact fun t ht hunlabelled => getLast?_mediaTotals ht hunlabelled

/-- **A disk's medium is sound** for every list of types with distinct ids: the order of the list
does not matter, what a text says stands, what it does not say is inherited from a class of one
medium and from no other, and every volume is counted once, under the medium of its type. -/
theorem classifyVolumeTypes_sound (c : Casing) {raw : List RawVolumeType}
    (hids : (raw.filterMap fun entry => keep entry.id).Nodup) : SoundMedia c raw := by
  constructor
  case perm => exact fun raw' hperm id => mediumOf_perm hids hperm
  case labelled =>
    intro entry hmem id hid
    rw [mediumOf_of_mem hids hmem hid]
    rfl
  case own =>
    intro entry hmem id hid hown
    rw [mediumOf_of_mem hids hmem hid, if_pos hown]
  case inherited =>
    intro entry hmem id hid hown m hm
    rw [mediumOf_of_mem hids hmem hid, if_neg (not_not.2 hown), Option.some_inj, theOnly_eq_iff hm,
      siblings_eq_singleton_iff hids]
  case totals =>
    intro volumes
    refine countedByMedium_of_label (fun v => ?_) fun v => ?_
    · unfold labelVolumeMedia mediumOf
      cases (classifyVolumeTypes c raw).get? (v.volumeTypeId.getD "") <;> rfl
    · unfold labelVolumeMedia
      cases (classifyVolumeTypes c raw).get? (v.volumeTypeId.getD "") <;> rfl

/-- The types of the tests: two say what they are, one says nothing but shares a class with the
first, one knows nothing. -/
theorem classifyVolumeTypes_sound_tests :
    let raw : List RawVolumeType :=
      [⟨some "t-ssd", some "uz_serv_01_EBS_SSD_1", none, some "class-flash"⟩,
        ⟨some "t-desc", some "zvthdd3", some "Zadara HDD Basic 1", some "class-spin2"⟩,
        ⟨some "t-mute", some "zvtx9", none, some "class-flash"⟩,
        ⟨some "t-orphan", some "zvtq1", none, some "class-unknown"⟩]
    SoundMedia .ascii raw ∧ raw.map (fun entry => mediumOf .ascii raw (entry.id.getD "")) =
      [some "SSD", some "HDD", some "SSD", some ""] := by
  intro raw
  exact ⟨classifyVolumeTypes_sound .ascii (by decide +kernel), by decide +kernel⟩

end OpenCloud
