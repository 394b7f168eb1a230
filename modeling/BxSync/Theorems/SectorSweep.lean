import BxSync.ContactSector
import BxSync.Loops

/-! What a walk over the contact sectors leaves in the table. A row that was marked deleted and comes back unchanged is
    left for its checksum. -/

namespace BxSync

section

variable (lib : TextLib) (xxh3 : List UInt8 → UInt64)

/-! ### The property -/

/-- The ids of a response. -/
def sectorIds (elements : List SectorElement) : List UInt64 := elements.map fun e => (e.decode lib xxh3).id

/-- The element is the last one with its id. -/
def LastElement (elements before : List SectorElement) (e : SectorElement) : Prop :=
  ∃ after, elements = before ++ e :: after ∧ (e.decode lib xxh3).id ∉ sectorIds lib xxh3 after

/-- A row is live and has the name of a sector. -/
def ContactSectorRow.carries (row : ContactSectorRow) (sector : BXObjectContactSector) : Prop :=
  row.deleted = 0 ∧ sector.remoteName = some row.name

/-- The live rows are those of the response, with its values. -/
structure SectorsFollow (t : ContactSectors) (elements : List SectorElement) : Prop where
  live : ∀ id, (∃ row, t.lookup id = some row ∧ row.deleted = 0) ↔ id ∈ sectorIds lib xxh3 elements
  values : ∀ before e, LastElement lib xxh3 elements before e → ∀ row, t.lookup (e.decode lib xxh3).id = some row →
    row.carries (e.decode lib xxh3)

/-- The table after some elements. -/
def sectorsAfter (t : ContactSectors) (elements : List SectorElement) : ContactSectors :=
  (bxContactSectorStoreAll lib xxh3 t (liveItems t) elements).2.1

/-- The last sector with an id is new, is written over its row, or has its row already. The rows to be marked have ids
    that are no negative numbers, and the mark is not 0. -/
structure SectorCondition (t : ContactSectors) (w : SectorWalk) : Prop where
  stored : ∀ before e, LastElement lib xxh3 w.elements before e →
    ∀ row, (sectorsAfter lib xxh3 t before).lookup (e.decode lib xxh3).id = some row →
      (row.checksum ≠ (e.decode lib xxh3).checksum ∧ (e.decode lib xxh3).remoteId.isSome) ∨ row.carries (e.decode lib xxh3)
  swept : ∀ id row, t.lookup id = some row → row.deleted = 0 → id ∉ sectorIds lib xxh3 w.elements →
    id.toNat < 2 ^ 63 ∧ w.sweptAt ≠ 0

end

section

variable {lib : TextLib} {xxh3 : List UInt8 → UInt64} {t : ContactSectors} {sector : BXObjectContactSector} {now k : UInt64}

/-! ### One sector -/

theorem sectorError_ne {needReconnect : Bool} {error : BXillError} (h : error ≠ .noError) :
    sectorError needReconnect error ≠ .noError := by
  unfold sectorError
  split
  · exact nofun
  · exact h

/-- What storing a sector leaves when it succeeds. -/
inductive SectorStored (t : ContactSectors) (sector : BXObjectContactSector) (now : UInt64) : ContactSectors → Prop
  | inserted (hnone : t.lookup sector.id = none) (hname : sector.remoteName.isSome) :
      SectorStored t sector now (t.insert sector.id (sector.row now))
  /-- The checksum is the one of the row, or the UPDATE has no id. -/
  | left (row : ContactSectorRow) (hrow : t.lookup sector.id = some row)
      (hsame : row.checksum = sector.checksum ∨ sector.remoteId = none) : SectorStored t sector now t
  | updated (row : ContactSectorRow) (hrow : t.lookup sector.id = some row) (hdiffers : row.checksum ≠ sector.checksum)
      (hid : sector.remoteId.isSome) (hname : sector.remoteName.isSome) :
      SectorStored t sector now (t.insert sector.id (sector.row now))

theorem insertRow_done {key : UInt64} {row : ContactSectorRow} {fk cv warned : Bool} {next : ContactSectors}
    (h : Table.insertRow t key row fk cv = (some warned, next)) : fk = false ∧ t.lookup key = none ∧ next = t.insert key row := by
  unfold Table.insertRow at h
  split at h
  · exact nomatch h
  · rename_i hfree
    simp only [not_or, Bool.not_eq_true, Option.isSome_eq_false_iff, Option.isNone_iff_eq_none] at hfree
    obtain ⟨-, rfl⟩ := Prod.mk.inj h
    exact ⟨hfree.2, hfree.1, rfl⟩

theorem update_some_done {key : UInt64} {row old : ContactSectorRow} {fk cv warned : Bool} {next : ContactSectors}
    (hold : t.lookup key = some old) (h : Table.update t (some key) row fk cv = (some warned, next)) :
    fk = false ∧ next = t.insert key row := by
  unfold Table.update at h
  dsimp only at h
  rw [hold, if_pos (by rfl)] at h
  split at h
  · exact nomatch h
  · rename_i hfk
    obtain ⟨-, rfl⟩ := Prod.mk.inj h
    exact ⟨Bool.eq_false_of_not_eq_true hfk, rfl⟩

theorem update_none_done {row : ContactSectorRow} {fk cv warned : Bool} {next : ContactSectors}
    (h : Table.update t none row fk cv = (some warned, next)) : next = t := (Prod.mk.inj h).2.symm

theorem signedId_of_found {id : UInt64} {row : ContactSectorRow} (h : (signedId id).bind t.lookup = some row) :
    signedId id = some id ∧ t.lookup id = some row := by
  by_cases hsigned : id.toNat < 2 ^ 63
  · rw [signedId, if_pos hsigned] at h
    exact ⟨if_pos hsigned, h⟩
  · rw [signedId, if_neg hsigned] at h
    exact nomatch h

theorem isSome_of_named {fk : Bool} (h : (fk || sector.remoteName.isNone) = false) : sector.remoteName.isSome := by
  rw [Bool.or_eq_false_iff, Option.isNone_eq_false_iff] at h
  exact h.2

theorem bxContactSectorStore_done {now : UInt64} {a : UpsertAnswers} (h : (bxContactSectorStore t sector now a).1 = .noError) :
    SectorStored t sector now (bxContactSectorStore t sector now a).2 := by
  unfold bxContactSectorStore at h ⊢
  by_cases hprepared : !a.selectPrepared
  · rw [if_pos hprepared] at h
    exact nomatch h
  rw [if_neg hprepared] at h ⊢
  cases hselect : a.select with
  | failed needReconnect =>
    rw [hselect] at h
    exact absurd h (sectorError_ne nofun)
  | answered =>
    rw [hselect] at h
    dsimp only at h ⊢
    cases hfound : (signedId sector.id).bind t.lookup with
    | none =>
      rw [hfound] at h
      dsimp only at h ⊢
      by_cases hwrite : !a.writePrepared
      · rw [if_pos hwrite] at h
        exact nomatch h
      rw [if_neg hwrite] at h ⊢
      split at h
      · exact absurd h (sectorError_ne nofun)
      rename_i warned hstmt
      obtain ⟨fk, cv, heffect⟩ := Exec.run_done hstmt
      obtain ⟨hname, hnone, htable⟩ := insertRow_done heffect
      dsimp only
      rw [htable]
      exact .inserted hnone (isSome_of_named hname)
    | some row =>
      rw [hfound] at h
      dsimp only at h ⊢
      obtain ⟨hsigned, hrow⟩ := signedId_of_found hfound
      by_cases hsame : row.checksum = sector.checksum
      · rw [if_pos hsame]
        exact .left row hrow (Or.inl hsame)
      rw [if_neg hsame] at h ⊢
      by_cases hwrite : !a.writePrepared
      · rw [if_pos hwrite] at h
        exact nomatch h
      rw [if_neg hwrite] at h ⊢
      split at h
      · exact absurd h (sectorError_ne nofun)
      rename_i warned hstmt
      obtain ⟨fk, cv, heffect⟩ := Exec.run_done hstmt
      dsimp only
      cases hid : sector.remoteId with
      | none =>
        rw [hid] at heffect
        rw [update_none_done heffect]
        exact .left row hrow (Or.inr hid)
      | some id =>
        have hkey : (some id).bind signedId = some sector.id := by
          rw [← hsigned, BXObjectContactSector.id, hid]
          rfl
        rw [hid, hkey] at heffect
        obtain ⟨hname, htable⟩ := update_some_done hrow heffect
        rw [hkey, htable]
        exact .updated row hrow hsame (by rw [hid]; rfl) (isSome_of_named hname)

/-- A sector leaves the rows of the other ids as they are. -/
theorem SectorStored.lookup_ne {next : ContactSectors} (h : SectorStored t sector now next) (hk : k ≠ sector.id) :
    next.lookup k = t.lookup k := by
  cases h with
  | inserted => exact AList.lookup_insert_ne hk
  | left => rfl
  | updated => exact AList.lookup_insert_ne hk

theorem carries_row (hname : sector.remoteName.isSome) : (sector.row now).carries sector := by
  obtain ⟨name, hname⟩ := Option.isSome_iff_exists.mp hname
  refine ⟨rfl, ?_⟩
  rw [BXObjectContactSector.row, hname]
  rfl

/-- The row of a sector that was stored carries it if and only if there was none, or it was written over, or carried it. -/
theorem SectorStored.carries_iff {next : ContactSectors} (h : SectorStored t sector now next) :
    ∃ row, next.lookup sector.id = some row ∧ (row.carries sector ↔ ∀ old, t.lookup sector.id = some old →
      (old.checksum ≠ sector.checksum ∧ sector.remoteId.isSome) ∨ old.carries sector) := by
  cases h with
  | inserted hnone hname =>
    refine ⟨_, AList.lookup_insert t, iff_of_true (carries_row hname) fun old hold => ?_⟩
    rw [hnone] at hold
    exact nomatch hold
  | left row hrow hsame =>
    refine ⟨row, hrow, fun hcarries old hold => ?_, fun hall => ?_⟩
    · obtain rfl := Option.some.inj (hrow.symm.trans hold)
      exact Or.inr hcarries
    · rcases hall row hrow with ⟨hdiffers, hid⟩ | hcarries
      · rcases hsame with hsame | hnone
        · exact absurd hsame hdiffers
        · rw [hnone] at hid
          exact nomatch hid
      · exact hcarries
  | updated row hrow hdiffers hid hname =>
    refine ⟨_, AList.lookup_insert t, iff_of_true (carries_row hname) fun old hold => ?_⟩
    obtain rfl := Option.some.inj (hrow.symm.trans hold)
    exact Or.inl ⟨hdiffers, hid⟩

end

/-! ### The response -/

section

variable {lib : TextLib} {xxh3 : List UInt8 → UInt64} {t : ContactSectors} {items : List ItemMustBeDeleted} {k : UInt64}

/-- A prefix of a loop that succeeds succeeds, and the rest goes on from its table. -/
theorem bxContactSectorStoreAll_append {before after : List SectorElement}
    (h : (bxContactSectorStoreAll lib xxh3 t items (before ++ after)).1 = .noError) :
    (bxContactSectorStoreAll lib xxh3 t items before).1 = .noError ∧
      bxContactSectorStoreAll lib xxh3 t items (before ++ after) =
        bxContactSectorStoreAll lib xxh3 (bxContactSectorStoreAll lib xxh3 t items before).2.1
          (bxContactSectorStoreAll lib xxh3 t items before).2.2 after := by
  induction before generalizing t items with
  | nil => exact ⟨rfl, rfl⟩
  | cons e before ih =>
    rw [List.cons_append, bxContactSectorStoreAll] at h ⊢
    rw [bxContactSectorStoreAll]
    split at h
    · rename_i hstored
      simp only [if_pos hstored]
      exact ih h
    · rename_i hfailed
      exact absurd h hfailed

/-- The first sector of a loop that succeeds is stored. -/
theorem bxContactSectorStoreAll_cons {e : SectorElement} {rest : List SectorElement}
    (h : (bxContactSectorStoreAll lib xxh3 t items (e :: rest)).1 = .noError) :
    ∃ next, SectorStored t (e.decode lib xxh3) e.now next ∧
      bxContactSectorStoreAll lib xxh3 t items (e :: rest) =
        bxContactSectorStoreAll lib xxh3 next (markFound (e.decode lib xxh3).id items) rest := by
  rw [bxContactSectorStoreAll] at h ⊢
  split at h
  · rename_i hstored
    exact ⟨_, bxContactSectorStore_done hstored, if_pos hstored⟩
  · rename_i hfailed
    exact absurd h hfailed

/-- The rows of the ids that are not in the response stay as they are. -/
theorem lookup_bxContactSectorStoreAll {elements : List SectorElement}
    (h : (bxContactSectorStoreAll lib xxh3 t items elements).1 = .noError) (hk : k ∉ sectorIds lib xxh3 elements) :
    (bxContactSectorStoreAll lib xxh3 t items elements).2.1.lookup k = t.lookup k := by
  induction elements generalizing t items with
  | nil => rfl
  | cons e rest ih =>
    obtain ⟨next, hstored, hrest⟩ := bxContactSectorStoreAll_cons h
    rw [sectorIds, List.map_cons, List.mem_cons, not_or] at hk
    rw [hrest] at h ⊢
    exact (ih h hk.2).trans (hstored.lookup_ne hk.1)

/-! ### The marks -/

theorem map_item_markFound (id : UInt64) : ((markFound id items).map ItemMustBeDeleted.item) = items.map ItemMustBeDeleted.item := by
  induction items with
  | nil => rfl
  | cons i rest ih =>
    rw [markFound]
    split
    · rfl
    · rw [List.map_cons, ih, List.map_cons]

/-- Among items with one id each, the one that is found loses its mark. -/
theorem mem_markFound (hnodup : (items.map ItemMustBeDeleted.item).Nodup) (id : UInt64) :
    ⟨k, true⟩ ∈ markFound id items ↔ ⟨k, true⟩ ∈ items ∧ k ≠ id := by
  induction items with
  | nil => exact iff_of_false List.not_mem_nil fun h => List.not_mem_nil h.1
  | cons i rest ih =>
    rw [List.map_cons, List.nodup_cons] at hnodup
    rw [markFound]
    split
    · rename_i hitem
      have hother : ⟨k, true⟩ ∈ rest → k ≠ id := by
        rintro hmem rfl
        exact hnodup.1 (hitem ▸ List.mem_map_of_mem (f := ItemMustBeDeleted.item) hmem)
      rw [List.mem_cons, List.mem_cons]
      constructor
      · rintro (heq | hmem)
        · exact nomatch congrArg ItemMustBeDeleted.deleted heq
        · exact ⟨Or.inr hmem, hother hmem⟩
      · rintro ⟨rfl | hmem, hk⟩
        · exact absurd hitem hk
        · exact Or.inr hmem
    · rename_i hitem
      rw [List.mem_cons, List.mem_cons, ih hnodup.2]
      constructor
      · rintro (rfl | ⟨hmem, hk⟩)
        · exact ⟨Or.inl rfl, hitem⟩
        · exact ⟨Or.inr hmem, hk⟩
      · rintro ⟨heq | hmem, hk⟩
        · exact Or.inl heq
        · exact Or.inr ⟨hmem, hk⟩

/-- The marks that are left after the response are those of the ids that are not in it. -/
theorem mem_marks {elements : List SectorElement} (h : (bxContactSectorStoreAll lib xxh3 t items elements).1 = .noError)
    (hnodup : (items.map ItemMustBeDeleted.item).Nodup) :
    ((bxContactSectorStoreAll lib xxh3 t items elements).2.2.map ItemMustBeDeleted.item).Nodup ∧
      (⟨k, true⟩ ∈ (bxContactSectorStoreAll lib xxh3 t items elements).2.2 ↔
        ⟨k, true⟩ ∈ items ∧ k ∉ sectorIds lib xxh3 elements) := by
  induction elements generalizing t items with
  | nil => exact ⟨hnodup, fun hmem => ⟨hmem, List.not_mem_nil⟩, And.left⟩
  | cons e rest ih =>
    obtain ⟨next, -, hrest⟩ := bxContactSectorStoreAll_cons h
    rw [hrest] at h ⊢
    obtain ⟨hnodup', hmem⟩ := ih h (by rw [map_item_markFound]; exact hnodup)
    refine ⟨hnodup', hmem.trans ?_⟩
    rw [mem_markFound hnodup, sectorIds, sectorIds, List.map_cons, List.mem_cons, not_or, and_assoc]

theorem nodup_liveItems : ((liveItems t).map ItemMustBeDeleted.item).Nodup := by
  have hkeys : (liveItems t).map ItemMustBeDeleted.item = (t.entries.filter fun e => e.2.deleted = 0).map Sigma.fst := by
    rw [liveItems, List.map_map]
    rfl
  rw [hkeys]
  exact t.nodupKeys.sublist List.filter_sublist

theorem mem_liveItems : ⟨k, true⟩ ∈ liveItems t ↔ ∃ row, t.lookup k = some row ∧ row.deleted = 0 := by
  simp only [liveItems, List.mem_map, List.mem_filter, decide_eq_true_eq, ItemMustBeDeleted.mk.injEq, and_true]
  constructor
  · rintro ⟨⟨id, row⟩, ⟨hmem, hlive⟩, rfl⟩
    exact ⟨row, AList.mem_lookup_iff.mpr hmem, hlive⟩
  · rintro ⟨row, hrow, hlive⟩
    exact ⟨⟨k, row⟩, ⟨AList.mem_lookup_iff.mp hrow, hlive⟩, rfl⟩

/-! ### The sweep -/

theorem lookup_setDeleted_done {id now : UInt64} {fk cv warned : Bool} {next : ContactSectors}
    (h : setDeleted t (signedId id) now fk cv = (some warned, next)) :
    next.lookup k = if k = id ∧ id.toNat < 2 ^ 63 then (t.lookup k).map fun row => { row with deleted := now } else t.lookup k := by
  unfold setDeleted at h
  split at h
  · rename_i hnone
    obtain ⟨-, rfl⟩ := Prod.mk.inj h
    split
    · rename_i hswept
      rw [signedId, if_pos hswept.2] at hnone
      rw [hswept.1, show t.lookup id = none from hnone]
      rfl
    · rfl
  · rename_i row hrow
    obtain ⟨hsigned, hrow⟩ := signedId_of_found hrow
    rw [hsigned] at h
    obtain ⟨-, rfl⟩ := update_some_done hrow h
    have hlt : id.toNat < 2 ^ 63 := by
      by_contra hge
      rw [signedId, if_neg hge] at hsigned
      exact nomatch hsigned
    rw [Table.lookup_insert_eq]
    by_cases hk : k = id
    · rw [if_pos hk, if_pos ⟨hk, hlt⟩, hk, hrow]
      rfl
    · rw [if_neg hk, if_neg fun h => hk h.1]

/-- A sweep that succeeds marks the rows of its items, those with negative numbers apart. -/
theorem lookup_bxContactSectorSweep {now : UInt64} {sweep : UInt64 → Exec}
    (h : (bxContactSectorSweep now sweep t items).1 = .noError) :
    (bxContactSectorSweep now sweep t items).2.lookup k =
      if ⟨k, true⟩ ∈ items ∧ k.toNat < 2 ^ 63 then (t.lookup k).map fun row => { row with deleted := now } else t.lookup k := by
  induction items generalizing t with
  | nil => rw [bxContactSectorSweep, if_neg fun h => List.not_mem_nil h.1]
  | cons i rest ih =>
    rw [bxContactSectorSweep] at h ⊢
    by_cases hdeleted : i.deleted
    · rw [if_pos hdeleted] at h ⊢
      dsimp only at h ⊢
      split at h
      · exact absurd h (sectorError_ne nofun)
      rename_i warned hstmt
      obtain ⟨fk, cv, heffect⟩ := Exec.run_done hstmt
      have hlookup := lookup_setDeleted_done (k := k) heffect
      have hmem : ⟨k, true⟩ ∈ i :: rest ↔ k = i.item ∨ ⟨k, true⟩ ∈ rest := by
        rw [List.mem_cons]
        refine or_congr_left ⟨fun heq => congrArg ItemMustBeDeleted.item heq, ?_⟩
        rintro rfl
        obtain ⟨item, deleted⟩ := i
        exact congrArg _ hdeleted.symm
      rw [ih h]
      by_cases hswept : k = i.item ∧ i.item.toNat < 2 ^ 63
      · rw [if_pos hswept] at hlookup
        obtain ⟨rfl, hlt⟩ := hswept
        rw [hlookup, if_pos (show ⟨i.item, true⟩ ∈ i :: rest ∧ _ from ⟨hmem.mpr (Or.inl rfl), hlt⟩)]
        split
        · rw [Option.map_map]
          rfl
        · rfl
      · rw [if_neg hswept] at hlookup
        rw [hlookup]
        refine if_congr ⟨fun ⟨hrest, hlt⟩ => ⟨hmem.mpr (Or.inr hrest), hlt⟩, fun ⟨hitems, hlt⟩ => ?_⟩ rfl rfl
        rcases hmem.mp hitems with rfl | hrest
        · exact absurd ⟨rfl, hlt⟩ hswept
        · exact ⟨hrest, hlt⟩
    · rw [if_neg hdeleted] at h ⊢
      have hrest : ⟨k, true⟩ ∈ i :: rest ↔ ⟨k, true⟩ ∈ rest := by
        rw [List.mem_cons]
        refine or_iff_right fun heq => hdeleted ?_
        rw [← heq]
      rw [ih h]
      simp only [hrest]

end

/-! ### The walk -/

section

variable {lib : TextLib} {xxh3 : List UInt8 → UInt64} {t : ContactSectors} {w : SectorWalk} {k : UInt64}

/-- A walk that succeeds stores the whole response and marks the live rows that are not in it. -/
theorem bxContactSectorWalkTable_done (h : (bxContactSectorWalkTable lib xxh3 t w).1 = .noError) :
    (bxContactSectorStoreAll lib xxh3 t (liveItems t) w.elements).1 = .noError ∧
      (bxContactSectorWalkTable lib xxh3 t w).2.lookup k =
        if (∃ row, t.lookup k = some row ∧ row.deleted = 0) ∧ k ∉ sectorIds lib xxh3 w.elements ∧ k.toNat < 2 ^ 63 then
          ((sectorsAfter lib xxh3 t w.elements).lookup k).map fun row => { row with deleted := w.sweptAt }
        else (sectorsAfter lib xxh3 t w.elements).lookup k := by
  unfold bxContactSectorWalkTable at h ⊢
  by_cases hcode : w.httpCode ≠ some 200
  · rw [if_pos hcode] at h
    exact nomatch h
  rw [if_neg hcode] at h ⊢
  by_cases hprepared : !w.idsPrepared
  · rw [if_pos hprepared] at h
    exact nomatch h
  rw [if_neg hprepared] at h ⊢
  cases hids : w.ids with
  | failed needReconnect =>
    rw [hids] at h
    exact absurd h (bxDatabaseQueryError_ne needReconnect)
  | answered =>
    rw [hids] at h
    dsimp only at h ⊢
    by_cases hstored : (bxContactSectorStoreAll lib xxh3 t (liveItems t) w.elements).1 = .noError
    · rw [if_neg (not_not.mpr hstored)] at h ⊢
      refine ⟨hstored, ?_⟩
      have hmarks : ⟨k, true⟩ ∈ (bxContactSectorStoreAll lib xxh3 t (liveItems t) w.elements).2.2 ↔ _ :=
        (mem_marks hstored nodup_liveItems).2
      rw [mem_liveItems] at hmarks
      by_cases hitems : (bxContactSectorStoreAll lib xxh3 t (liveItems t) w.elements).2.2 = []
      · rw [if_pos hitems, if_neg]
        · rfl
        rintro ⟨hlive, hgone, -⟩
        have hmem := hmarks.mpr ⟨hlive, hgone⟩
        rw [hitems] at hmem
        exact List.not_mem_nil hmem
      rw [if_neg hitems] at h ⊢
      by_cases hsweep : !w.sweepPrepared
      · rw [if_pos hsweep] at h
        exact nomatch h
      rw [if_neg hsweep] at h ⊢
      rw [lookup_bxContactSectorSweep h]
      refine if_congr ?_ rfl rfl
      rw [hmarks, and_assoc]
    · rw [if_pos hstored] at h
      exact absurd h hstored

theorem sectorIds_append (before after : List SectorElement) :
    sectorIds lib xxh3 (before ++ after) = sectorIds lib xxh3 before ++ sectorIds lib xxh3 after := List.map_append

/-- An id of the response has a last sector. -/
theorem lastElement_of_mem {elements : List SectorElement} (h : k ∈ sectorIds lib xxh3 elements) :
    ∃ before e, LastElement lib xxh3 elements before e ∧ (e.decode lib xxh3).id = k := by
  induction elements with
  | nil => exact absurd h List.not_mem_nil
  | cons e rest ih =>
    by_cases hrest : k ∈ sectorIds lib xxh3 rest
    · obtain ⟨before, last, ⟨after, rfl, hafter⟩, hid⟩ := ih hrest
      exact ⟨e :: before, last, ⟨after, rfl, hafter⟩, hid⟩
    · rcases List.mem_cons.mp h with rfl | hmem
      · exact ⟨[], e, ⟨rest, rfl, hrest⟩, rfl⟩
      · exact absurd hmem hrest

theorem LastElement.mem {elements before : List SectorElement} {e : SectorElement} (h : LastElement lib xxh3 elements before e) :
    (e.decode lib xxh3).id ∈ sectorIds lib xxh3 elements := by
  obtain ⟨after, rfl, -⟩ := h
  rw [sectorIds_append]
  exact List.mem_append_right _ List.mem_cons_self

/-- The row of the last sector with an id has its values if and only if the sector was new, written, or there. -/
theorem carries_last_iff (h : (bxContactSectorWalkTable lib xxh3 t w).1 = .noError) {before : List SectorElement} {e : SectorElement}
    (hlast : LastElement lib xxh3 w.elements before e) :
    ∃ row, (bxContactSectorWalkTable lib xxh3 t w).2.lookup (e.decode lib xxh3).id = some row ∧
      (row.carries (e.decode lib xxh3) ↔ ∀ old, (sectorsAfter lib xxh3 t before).lookup (e.decode lib xxh3).id = some old →
        (old.checksum ≠ (e.decode lib xxh3).checksum ∧ (e.decode lib xxh3).remoteId.isSome) ∨ old.carries (e.decode lib xxh3)) := by
  obtain ⟨hstored, hlookup⟩ := bxContactSectorWalkTable_done (k := (e.decode lib xxh3).id) h
  rw [hlookup, if_neg fun hgone => hgone.2.1 hlast.mem]
  obtain ⟨after, heq, hafter⟩ := hlast
  rw [sectorsAfter, heq]
  rw [heq] at hstored
  obtain ⟨-, hsplit⟩ := bxContactSectorStoreAll_append hstored
  rw [hsplit] at hstored ⊢
  obtain ⟨next, hnext, hrest⟩ := bxContactSectorStoreAll_cons hstored
  rw [hrest] at hstored ⊢
  rw [lookup_bxContactSectorStoreAll hstored hafter]
  exact hnext.carries_iff

/-- A row whose id is not in the response ends up marked if and only if it was, or its mark reaches it. -/
theorem marked_iff (h : (bxContactSectorWalkTable lib xxh3 t w).1 = .noError) (hk : k ∉ sectorIds lib xxh3 w.elements) :
    (¬∃ row, (bxContactSectorWalkTable lib xxh3 t w).2.lookup k = some row ∧ row.deleted = 0) ↔
      ∀ row, t.lookup k = some row → row.deleted = 0 → k.toNat < 2 ^ 63 ∧ w.sweptAt ≠ 0 := by
  obtain ⟨hstored, hlookup⟩ := bxContactSectorWalkTable_done (k := k) h
  have hsame : (sectorsAfter lib xxh3 t w.elements).lookup k = t.lookup k := lookup_bxContactSectorStoreAll hstored hk
  rw [hlookup, hsame]
  by_cases hlive : ∃ row, t.lookup k = some row ∧ row.deleted = 0
  · obtain ⟨row, hrow, hdeleted⟩ := hlive
    rw [hrow]
    by_cases hlt : k.toNat < 2 ^ 63
    · rw [if_pos ⟨⟨row, rfl, hdeleted⟩, hk, hlt⟩]
      constructor
      · rintro hnot row' - -
        exact ⟨hlt, fun hnow => hnot ⟨_, rfl, hnow⟩⟩
      · rintro hall ⟨swept, heq, hnow⟩
        obtain rfl := Option.some.inj heq
        exact (hall row rfl hdeleted).2 hnow
    · rw [if_neg fun hswept => hlt hswept.2.2]
      exact iff_of_false (fun hnot => hnot ⟨row, rfl, hdeleted⟩) fun hall => hlt (hall row rfl hdeleted).1
  · rw [if_neg fun hswept => hlive hswept.1]
    exact iff_of_true hlive fun row hrow hdeleted => absurd ⟨row, hrow, hdeleted⟩ hlive

/-- After a walk that succeeds the live rows are those of the response if and only if the condition holds. -/
theorem sectorsFollow_iff (t : ContactSectors) (w : SectorWalk) (h : (bxContactSectorWalkTable lib xxh3 t w).1 = .noError) :
    SectorsFollow lib xxh3 (bxContactSectorWalkTable lib xxh3 t w).2 w.elements ↔ SectorCondition lib xxh3 t w := by
  constructor
  · rintro ⟨hlive, hvalues⟩
    refine ⟨fun before e hlast => ?_, fun id row hrow hdeleted hgone => ?_⟩
    · obtain ⟨row, hrow, hcarries⟩ := carries_last_iff h hlast
      exact hcarries.mp (hvalues before e hlast row hrow)
    · exact (marked_iff h hgone).mp (fun hex => hgone ((hlive id).mp hex)) row hrow hdeleted
  · rintro ⟨hstored, hswept⟩
    refine ⟨fun id => ⟨fun hex => ?_, fun hmem => ?_⟩, fun before e hlast row hrow => ?_⟩
    · by_contra hgone
      exact (marked_iff h hgone).mpr (fun row hrow hdeleted => hswept id row hrow hdeleted hgone) hex
    · obtain ⟨before, e, hlast, rfl⟩ := lastElement_of_mem hmem
      obtain ⟨row, hrow, hcarries⟩ := carries_last_iff h hlast
      exact ⟨row, hrow, (hcarries.mpr (hstored before e hlast)).1⟩
    · obtain ⟨row', hrow', hcarries⟩ := carries_last_iff h hlast
      obtain rfl := Option.some.inj (hrow.symm.trans hrow')
      exact hcarries.mpr (hstored before e hlast)

/-- What the thread of the sectors sees of a walk. -/
theorem bxContactSectorWalkItems_table (t : ContactSectors) (w : SectorWalk) :
    bxContactSectorWalkItems true
      { answered := w.httpCode = some 200, statements := (bxContactSectorWalkTable lib xxh3 t w).1 } =
      some (bxContactSectorWalkTable lib xxh3 t w).1 := by
  unfold bxContactSectorWalkItems
  by_cases hcode : w.httpCode = some 200
  · simp [hcode]
  · have hfailed : bxContactSectorWalkTable lib xxh3 t w = (.errorGeneric, t) := by
      unfold bxContactSectorWalkTable
      rw [if_pos hcode]
    rw [hfailed]
    simp [hcode]

end

/-! ### A sector that comes back

    The rows are sector 1, and sector 2, which is not in the response. Sector 1 is live under another name, or it was
    marked deleted at 50. -/

def sectorJson : Json := .object [("id", .integer 1), ("name", .string (asciiBytes "IT"))]

def sectorElement : SectorElement := { object := sectorJson, now := 100, answers := allAnswered }

def sectorWalk : SectorWalk where
  httpCode := some 200
  elements := [sectorElement]
  idsPrepared := true
  ids := .answered
  sweepPrepared := true
  sweptAt := 100
  sweep _ := .ran false false

def sectorRows (row : ContactSectorRow) : ContactSectors :=
  AList.insert 1 row (AList.insert 2 { name := asciiBytes "Trade", checksum := 5, lastUpdated := 10, deleted := 0 } ∅)

def renamedRow : ContactSectorRow := { name := asciiBytes "Software", checksum := 5, lastUpdated := 10, deleted := 0 }

/-- What the walk wrote for the sector before it was marked. -/
def deletedRow : ContactSectorRow := { (sectorElement.decode plainText smallHash).row 10 with deleted := 50 }

theorem lastElement_sectorWalk {before : List SectorElement} {e : SectorElement}
    (h : LastElement plainText smallHash sectorWalk.elements before e) : before = [] ∧ e = sectorElement := by
  obtain ⟨after, heq, -⟩ := h
  rw [eq_comm, sectorWalk, List.append_eq_singleton_iff] at heq
  rcases heq with ⟨rfl, htail⟩ | ⟨-, htail⟩
  · exact ⟨rfl, (List.cons.inj htail).1⟩
  · exact nomatch htail

theorem sectorsFollow_renamed :
    SectorsFollow plainText smallHash (bxContactSectorWalkTable plainText smallHash (sectorRows renamedRow) sectorWalk).2
      sectorWalk.elements := by
  refine (sectorsFollow_iff (sectorRows renamedRow) sectorWalk (by decide +kernel)).mpr ⟨fun before e hlast row hrow => ?_,
    fun id row hrow _ hgone => ?_⟩
  · obtain ⟨rfl, rfl⟩ := lastElement_sectorWalk hlast
    obtain rfl : renamedRow = row := Option.some.inj hrow
    exact Or.inl (by decide +kernel)
  · rw [sectorRows, Table.lookup_insert_eq, Table.lookup_insert_eq] at hrow
    split at hrow
    · rename_i hid
      exact absurd (hid ▸ List.mem_singleton_self _) hgone
    split at hrow
    · rename_i hid
      subst hid
      exact ⟨by decide, by decide⟩
    · exact nomatch hrow

/-- The sector comes back unchanged and stays deleted. -/
theorem sectorsFollow_reappeared :
    (bxContactSectorWalkTable plainText smallHash (sectorRows deletedRow) sectorWalk).1 = .noError ∧
      ¬SectorsFollow plainText smallHash (bxContactSectorWalkTable plainText smallHash (sectorRows deletedRow) sectorWalk).2
        sectorWalk.elements := by
  refine ⟨by decide +kernel, fun hfollow => ?_⟩
  obtain ⟨row, hrow, hlive⟩ := (hfollow.live 1).mpr (by decide +kernel)
  have hdeleted : (bxContactSectorWalkTable plainText smallHash (sectorRows deletedRow) sectorWalk).2.lookup 1 = some deletedRow := by
    decide +kernel
  obtain rfl := Option.some.inj (hdeleted.symm.trans hrow)
  exact nomatch hlive

end BxSync
