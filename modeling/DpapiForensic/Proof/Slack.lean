import DpapiForensic.Proof.RunLocked

/-!
# Files with slack behind them

A file that is carved from an image comes with whatever filled its last cluster. Credential files and
policies delimit themselves, and in a profile the first element decides. A record does not delimit itself:
its last attribute runs to the end of the file. But the attribute's `Size` does say where its data ends, so
that behind an attribute that is all there, slack is as harmless as elsewhere.
-/

namespace DpapiForensic

open Vault

/-! ### Reads that stay in range -/

section Reads

variable {data slack bytes : Bytes} {pos start stop : Nat}

theorem getRange_append_right (h : stop ≤ data.length) :
    getRange (data ++ slack) start stop = getRange data start stop := by
  unfold getRange
  rw [List.length_append]
  by_cases hle : start ≤ stop
  · rw [if_pos ⟨hle, by omega⟩, if_pos ⟨hle, h⟩, List.drop_append_of_le_length (by omega),
      List.take_append_of_le_length (by rw [List.length_drop]; omega)]
  · rw [if_neg (by omega), if_neg (by omega)]

theorem BytesAt.append_right (h : BytesAt data pos bytes) : BytesAt (data ++ slack) pos bytes := by
  rw [BytesAt, getRange_append_right h.le]
  exact h

theorem u32At_append_right {fallback : UInt32} (h : stop ≤ data.length) :
    u32At fallback (data ++ slack) start stop = u32At fallback data start stop := by
  rw [u32At, getRange_append_right h, u32At]

end Reads

/-! ### Records -/

section Records

variable {vcrd slack attr iv data : Bytes}

theorem sizePos_append (h : 28 < attr.length) : sizePos (attr ++ slack) = sizePos attr := by
  rw [sizePos, getRange_append_right (by omega), u32At_append_right (by omega), sizePos]

/-- An attribute that is all there is read in the same way with more behind it. -/
theorem payload?_append (h : payload? attr = some (iv, data)) :
    payload? (attr ++ slack) = some (iv, data) := by
  obtain ⟨hlong, hholds⟩ := payload?_eq_some_iff.mp h
  refine payload?_eq_some_iff.mpr ⟨by rw [List.length_append]; omega, ?_⟩
  rw [HoldsWithIv, HoldsWithoutIv, sizePos_append hlong]
  refine hholds.imp ?_ ?_
  · rintro ⟨size, present, hpresent, hlt, hsum, hat⟩
    exact ⟨size, present, hpresent, hlt, hsum, hat.append_right⟩
  · rintro ⟨rfl, size, ivSize, hsum, hat⟩
    exact ⟨rfl, size, ivSize, hsum, hat.append_right⟩

theorem nameEnd_append (h : 40 ≤ vcrd.length) : nameEnd (vcrd ++ slack) = nameEnd vcrd := by
  rw [nameEnd, u32At_append_right h, nameEnd]

theorem mapEntries_append (count pos : Nat) (h : pos + 12 * count ≤ vcrd.length) :
    mapEntries (vcrd ++ slack) count pos = mapEntries vcrd count pos := by
  induction count generalizing pos with
  | zero => rfl
  | succ count ih =>
      rw [mapEntries, u32At_append_right (by omega), u32At_append_right (by omega), ih _ (by omega),
        mapEntries]

/-- The map is there, and the last attribute, if there is one, is all there. -/
def EndsInAttribute (vcrd : Bytes) : Prop :=
  MapInside vcrd ∧ ∀ r ∈ (declaredRanges vcrd).getLast?, (r.toAttribute vcrd).isSome

theorem AttributeRange.toAttribute_append {r : AttributeRange} (h : r.Fits vcrd.length) :
    r.toAttribute (vcrd ++ slack) = r.toAttribute vcrd := by
  have hbytes : r.bytes (vcrd ++ slack) = r.bytes vcrd := by
    obtain ⟨hle, hsize⟩ := h
    rw [bytes, List.drop_append_of_le_length (by omega),
      List.take_append_of_le_length (by rw [List.length_drop]; omega), bytes]
  rw [toAttribute, hbytes, toAttribute]

theorem AttributeRange.toAttribute_last {id : UInt32} {start : Nat} (hle : start ≤ vcrd.length)
    (h : (toAttribute ⟨id, start, vcrd.length⟩ vcrd).isSome) :
    toAttribute ⟨id, start, (vcrd ++ slack).length⟩ (vcrd ++ slack)
      = toAttribute ⟨id, start, vcrd.length⟩ vcrd := by
  have hbytes : bytes ⟨id, start, vcrd.length⟩ vcrd = vcrd.drop start := by
    rw [bytes]
    exact List.take_of_length_le (by rw [List.length_drop])
  have hbytes' : bytes ⟨id, start, (vcrd ++ slack).length⟩ (vcrd ++ slack) = vcrd.drop start ++ slack := by
    rw [bytes, List.drop_append_of_le_length hle]
    exact List.take_of_length_le (by simp only [List.length_append, List.length_drop]; omega)
  rw [toAttribute, hbytes, Option.isSome_map, Option.isSome_iff_exists] at h
  obtain ⟨⟨iv, data⟩, hpayload⟩ := h
  rw [toAttribute, hbytes', payload?_append hpayload, toAttribute, hbytes, hpayload]

theorem filterMap_cons_congr {α β : Type} {f g : α → Option β} {a b : α} {as bs : List α}
    (hhead : f a = g b) (htail : as.filterMap f = bs.filterMap g) :
    (a :: as).filterMap f = (b :: bs).filterMap g := by
  rw [List.filterMap_cons, List.filterMap_cons, hhead, htail]

/-- What the slack makes of the ranges: the last one is longer, and yields the attribute it did. -/
theorem ranges_append (offsets : List (UInt32 × Nat))
    (hfits : ∀ r ∈ ranges vcrd.length offsets, r.Fits vcrd.length)
    (hlast : ∀ r ∈ (ranges vcrd.length offsets).getLast?, (r.toAttribute vcrd).isSome) :
    (ranges (vcrd ++ slack).length offsets).filterMap (·.toAttribute (vcrd ++ slack))
        = (ranges vcrd.length offsets).filterMap (·.toAttribute vcrd) ∧
      ∀ r ∈ ranges (vcrd ++ slack).length offsets, r.Fits (vcrd ++ slack).length := by
  induction offsets with
  | nil => exact ⟨rfl, fun r hr => absurd hr List.not_mem_nil⟩
  | cons offset offsets ih =>
      obtain ⟨id, start⟩ := offset
      obtain ⟨hfit, hrest⟩ := List.forall_mem_cons.mp hfits
      have hgrow : vcrd.length ≤ (vcrd ++ slack).length := by
        rw [List.length_append]
        exact Nat.le_add_right _ _
      cases offsets with
      | nil =>
          have hsome : (AttributeRange.toAttribute ⟨id, start, vcrd.length⟩ vcrd).isSome := hlast _ rfl
          refine ⟨?_, List.forall_mem_singleton.mpr ⟨hfit.1.trans hgrow, Nat.le_refl _⟩⟩
          exact filterMap_cons_congr (AttributeRange.toAttribute_last hfit.1 hsome) rfl
      | cons next offsets =>
          have hlast' : ∀ r ∈ (ranges vcrd.length (next :: offsets)).getLast?,
              (r.toAttribute vcrd).isSome := by
            intro r hr
            apply hlast r
            rw [ranges, List.getLast?_cons, Option.mem_def.mp hr]
            rfl
          obtain ⟨hattrs, hfits'⟩ := ih hrest hlast'
          exact ⟨filterMap_cons_congr (AttributeRange.toAttribute_append hfit) hattrs,
            List.forall_mem_cons.mpr ⟨⟨hfit.1, hfit.2.trans hgrow⟩, hfits'⟩⟩

theorem TakenAs.append {attrs : List VcrdAttribute} (hends : EndsInAttribute vcrd)
    (h : TakenAs vcrd attrs) : TakenAs (vcrd ++ slack) attrs := by
  obtain ⟨hinside, hlast⟩ := hends
  obtain ⟨⟨hname, hwhole, hfits⟩, rfl⟩ := h
  rw [MapInside, mapsStart] at hinside
  have hnameEnd : nameEnd (vcrd ++ slack) = nameEnd vcrd := by
    refine nameEnd_append (Nat.le_trans ?_ hname)
    exact Nat.le_add_right _ _
  have hmapsSize : mapsSize (vcrd ++ slack) = mapsSize vcrd := by
    rw [mapsSize, hnameEnd, u32At_append_right (by omega), mapsSize]
  have hranges : declaredRanges (vcrd ++ slack)
      = ranges (vcrd ++ slack).length (mapEntries vcrd (mapsSize vcrd / 12) (mapsStart vcrd)) := by
    rw [declaredRanges, hmapsSize, mapsStart, hnameEnd, mapEntries_append _ _ (by omega), mapsStart]
  obtain ⟨hattrs, hfits'⟩ := @ranges_append vcrd slack _ hfits hlast
  refine ⟨⟨?_, by rwa [hmapsSize], by rwa [hranges]⟩, by rw [hranges, hattrs, declaredRanges]⟩
  rw [hnameEnd, List.length_append]
  exact hname.trans (Nat.le_add_right _ _)

end Records

/-! ### Well-formed records -/

section WellFormed

/-- A record as it is laid out has its map inside, its items up to its end, and declares where they start. -/
theorem layout_bytes (w : WireVcrd) :
    MapInside w.bytes ∧ BytesAt w.bytes w.itemsStart (WireEntry.itemBytes w.entries) ∧
      declaredRanges w.bytes = ranges w.bytes.length (WireEntry.offsets w.itemsStart w.entries) := by
  have hfits := w.fits
  have hlen := w.length_bytes
  have hstart : w.itemsStart
      = 36 + (4 + w.friendlyName.val.length) + 4 + 12 * w.entries.length + w.gap.length := by
    rw [WireVcrd.itemsStart]
    omega
  have hall : BytesAt w.bytes 0 w.bytes := bytesAt_self
  obtain ⟨-, hrest⟩ := bytesAt_append.mp hall
  simp only [bytesAt_append, w.length_header, length_lp, length_le32, WireEntry.length_mapBytes,
    Nat.zero_add] at hrest
  obtain ⟨hname, hmapsSize, hmap, -, hitems⟩ := hrest
  obtain ⟨-, hnameLen⟩ := (bytesAt_lp_iff 0).mp ⟨w.friendlyName.property, hname⟩
  have hnameEnd : nameEnd w.bytes = 36 + (4 + w.friendlyName.val.length) := by
    rw [nameEnd, ← hnameLen]
    omega
  have hmapsStart : mapsStart w.bytes = 36 + (4 + w.friendlyName.val.length) + 4 := by
    rw [mapsStart, hnameEnd]
  have hsize : mapsSize w.bytes = 12 * w.entries.length := by
    rw [mapsSize, hnameEnd, u32At_of_bytesAt hmapsSize, UInt32.toNat_ofNat',
      Nat.mod_eq_of_lt (by omega)]
  refine ⟨by rw [MapInside, hmapsStart, hsize]; omega, hstart ▸ hitems, ?_⟩
  rw [declaredRanges, hsize, hmapsStart, Nat.mul_div_cancel_left _ (by decide),
    mapEntries_mapBytes (by omega) hmap]

theorem toAttribute_isSome_of_item {e : WireEntry} {offset : Nat} (h : BytesAt vcrd offset e.item.bytes)
    (hend : offset + e.item.bytes.length = vcrd.length) (hpayload : e.item.payload.isSome) :
    (AttributeRange.toAttribute ⟨e.id, offset, vcrd.length⟩ vcrd).isSome := by
  have hbytes : AttributeRange.bytes ⟨e.id, offset, vcrd.length⟩ vcrd = e.item.bytes := by
    apply Option.some.inj
    rw [← AttributeRange.getRange_of_fits ⟨e.id, offset, vcrd.length⟩
        ⟨Nat.le_of_add_right_le hend.le, Nat.le_refl _⟩,
      h.getRange_eq hend.symm]
  rw [AttributeRange.toAttribute, hbytes, Option.isSome_map]
  cases hitem : e.item with
  | small bytes hle =>
      rw [hitem] at hpayload
      cases hpayload
  | encrypted a =>
      have hlen := a.length_bytes
      have hread : payload? a.bytes = some (a.iv, a.data) :=
        payload?_eq_some_iff.mpr ⟨by omega, Or.inl (holdsWithIv_bytes a)⟩
      rw [WireItem.bytes, hread]
      rfl

/-- Of items laid end to end up to the end, the last is read if it is an attribute. -/
theorem toAttribute_isSome_of_last {entries : List WireEntry} {offset : Nat}
    (h : BytesAt vcrd offset (WireEntry.itemBytes entries))
    (hend : offset + (WireEntry.itemBytes entries).length = vcrd.length)
    (hlast : ∀ e ∈ entries.getLast?, e.item.payload.isSome) :
    ∀ r ∈ (ranges vcrd.length (WireEntry.offsets offset entries)).getLast?,
      (r.toAttribute vcrd).isSome := by
  induction entries generalizing offset with
  | nil => exact fun r hr => nomatch hr
  | cons e entries ih =>
      simp only [WireEntry.itemBytes, List.flatMap_cons, List.length_append] at h hend
      obtain ⟨hitem, hrest⟩ := bytesAt_append.mp h
      cases entries with
      | nil =>
          intro r hr
          obtain rfl := Option.some.inj hr
          exact toAttribute_isSome_of_item hitem (by simpa using hend) (hlast e rfl)
      | cons next entries =>
          intro r hr
          exact ih hrest (by rw [WireEntry.itemBytes]; omega) hlast r hr

/-- A well-formed record whose last item is an attribute ends in it. -/
theorem endsInAttribute_bytes (w : WireVcrd)
    (hlast : ∀ e ∈ w.entries.getLast?, e.item.payload.isSome) : EndsInAttribute w.bytes := by
  obtain ⟨hinside, hitems, hranges⟩ := layout_bytes w
  refine ⟨hinside, ?_⟩
  rw [hranges]
  exact toAttribute_isSome_of_last hitems w.length_bytes.symm hlast

end WellFormed

/-! ### Runs -/

/-- The files of the second disk are those of the first with slack behind them. -/
inductive Slack (fs fs' : FileSystem) : Command → Prop
  | credman {path masterKeyHex : String} {file slack : Bytes} (hfile : fs.readBytes path = .ok file)
      (hfile' : fs'.readBytes path = .ok (file ++ slack)) : Slack fs fs' (.credman path masterKeyHex)
  | vault {vpol vcrd masterKeyHex : String} {policy record slack slack' : Bytes}
      (hvpol : fs.readBytes vpol = .ok policy) (hvpol' : fs'.readBytes vpol = .ok (policy ++ slack))
      (hvcrd : fs.readBytes vcrd = .ok record) (hvcrd' : fs'.readBytes vcrd = .ok (record ++ slack'))
      (hends : slack' = [] ∨ EndsInAttribute record) : Slack fs fs' (.vault vpol vcrd masterKeyHex)
  | wifi {profile masterKeyHex text slack : String} (hprofile : fs.readToString profile = .ok text)
      (hprofile' : fs'.readToString profile = .ok (text ++ slack)) :
      Slack fs fs' (.wifi profile masterKeyHex)

section Runs

variable {env : Env} {fs fs' : FileSystem} {command : Command} {masterKey : Bytes}

theorem FirstElement.append {profile body : List Char} (h : FirstElement profile body)
    (slack : List Char) : FirstElement (profile ++ slack) body := by
  obtain ⟨pre, post, rfl, hpre, hbody⟩ := h
  exact ⟨pre, post ++ slack, by simp only [List.append_assoc], hpre, hbody⟩

theorem ArtifactYields.slack (h : Slack fs fs' command) {results : List StoreResult}
    (hyields : ArtifactYields TakenAs env fs masterKey command results) :
    ArtifactYields TakenAs env fs' masterKey command results := by
  cases h with
  | @credman _ _ _ slack hfile hfile' =>
      cases hyields with
      | credman hread hyields =>
          obtain rfl := Except.ok.inj (hfile.symm.trans hread)
          obtain ⟨file, rest, cred, rest', hsplit, hsealed, hresults⟩ := hyields
          refine .credman hfile' ⟨file, rest ++ slack, cred, rest', ?_, hsealed, hresults⟩
          rw [hsplit, List.append_assoc]
  | @vault _ _ _ _ _ slack _ hvpol hvpol' hvcrd hvcrd' hends =>
      cases hyields with
      | vault hread hread' htaken hyields =>
          obtain rfl := Except.ok.inj (hvpol.symm.trans hread)
          obtain rfl := Except.ok.inj (hvcrd.symm.trans hread')
          obtain ⟨vpol, rest, keys, rest', hsplit, hsealed, hattrs⟩ := hyields
          refine .vault hvpol' hvcrd' ?_ ⟨vpol, rest ++ slack, keys, rest', ?_, hsealed, hattrs⟩
          · rcases hends with rfl | hends
            · rwa [List.append_nil]
            · exact htaken.append hends
          · rw [hsplit, List.append_assoc]
  | @wifi _ _ _ slack hprofile hprofile' =>
      cases hyields with
      | wifi hread hyields =>
          obtain rfl := Except.ok.inj (hprofile.symm.trans hread)
          obtain ⟨body, blob, plain, psk, hbody, hyields⟩ := hyields
          refine .wifi hprofile' ⟨body, blob, plain, psk, ?_, hyields⟩
          rw [String.toList_append]
          exact hbody.append slack.toList

theorem Wraps.slack (h : Slack fs fs' command) {inner : Bytes} {store : String}
    (hwraps : Wraps env fs inner command store) : Wraps env fs' inner command store := by
  cases h with
  | credman hfile hfile' =>
      cases hwraps with
      | credman hread hinner =>
          obtain rfl := Except.ok.inj (hfile.symm.trans hread)
          rw [List.append_assoc] at hfile'
          exact .credman hfile' hinner
  | vault hvpol hvpol' hvcrd hvcrd' hends =>
      cases hwraps with
      | vault hread hread' hinner =>
          obtain rfl := Except.ok.inj (hvpol.symm.trans hread)
          rw [List.append_assoc] at hvpol'
          exact .vault hvpol' hvcrd' hinner
  | wifi hprofile hprofile' =>
      cases hwraps with
      | wifi hread hbody hhex =>
          obtain rfl := Except.ok.inj (hprofile.symm.trans hread)
          refine .wifi hprofile' ?_ hhex
          rw [String.toList_append]
          exact hbody.append _

end Runs

/-- **Slack is ignored.** What follows a Credential file, a policy, the text of a profile, or a record whose
last attribute is all there, changes neither a report nor a locked store, under any key. -/
theorem slack_ignored (env : Env) (himp : env.nomicon.IsImpacket) (hslices : env.ReturnsSlices)
    (fs fs' : FileSystem) (hfs : fs.ReturnsSlices) (hfs' : fs'.ReturnsSlices) (command : Command)
    (h : Slack fs fs' command) :
    (∀ report, Cli.run env fs command = .ok report → Cli.run env fs' command = .ok report) ∧
    ∀ store guid, Cli.run env fs command = .err (.locked store guid) →
      Cli.run env fs' command = .err (.locked store guid) := by
  constructor
  · intro report hrun
    obtain ⟨masterKey, hkey, hyields⟩ := (run_eq_ok_iff env himp hslices fs hfs command report).mp hrun
    exact (run_eq_ok_iff env himp hslices fs' hfs' command report).mpr
      ⟨masterKey, hkey, hyields.slack h⟩
  · intro store guid hrun
    obtain ⟨masterKey, inner, w, rest, hkey, hwraps, hblob⟩ :=
      (run_eq_locked_iff env himp hslices fs hfs command store guid).mp hrun
    exact (run_eq_locked_iff env himp hslices fs' hfs' command store guid).mpr
      ⟨masterKey, inner, w, rest, hkey, hwraps.slack h, hblob⟩

/-! ### The vault of the tests -/

/-- The vault with both clusters filled up by zeros. -/
theorem slack_ignored_vault :
    Cli.run vaultAnswers.env (vaultDisk (vectorVpol.bytes ++ [0, 0]) (vectorVcrd.bytes ++ [0, 0, 0, 0]))
        (.vault "Policy.vpol" "record.vcrd" (hexLower vectorMasterKey))
      = .ok ⟨[{ store := "vault", label := "https://portal.example.com", secret := "V@ultP4ss!"
                account := some "alice@example.com" }]⟩ := by
  have hfs : (vaultDisk vectorVpol.bytes vectorVcrd.bytes).ReturnsSlices :=
    vaultDisk_returnsSlices vectorVpol.isSlice_bytes vectorVcrd.isSlice_bytes
  have hpolicy : (vectorVpol.bytes ++ [0, 0]).length < 2 ^ 63 := by decide +kernel
  have hrecord : (vectorVcrd.bytes ++ [0, 0, 0, 0]).length < 2 ^ 63 := by decide +kernel
  have htaken := (takenAs_bytes_iff vaultAnswers.env vectorVcrd).mpr rfl
  have hrun := (run_eq_ok_iff vaultAnswers.env linkedTables_isImpacket vaultAnswers.returnsSlices _ hfs
    (.vault "Policy.vpol" "record.vcrd" (hexLower vectorMasterKey)) ⟨_⟩).mpr
    ⟨vectorMasterKey, keyGiven_hexLower _, .vault rfl rfl htaken vaultYields_vector⟩
  have hends : EndsInAttribute vectorVcrd.bytes := by
    apply endsInAttribute_bytes
    intro e he
    obtain rfl := Option.some.inj he
    rfl
  exact (slack_ignored vaultAnswers.env linkedTables_isImpacket vaultAnswers.returnsSlices _ _ hfs
    (vaultDisk_returnsSlices hpolicy hrecord) _ (.vault rfl rfl rfl rfl (Or.inr hends))).1 _ hrun

end DpapiForensic
