import FlashBench.Device.Session
import FlashBench.Proofs.Geometry.Check
import FlashBench.Proofs.Triple

/-!
# What a session passes on

A session on a device whose geometry answers depend on the address only. A request that leaves the
window or breaks alignment is refused, and then the device was asked for nothing but its geometry;
any other request leads where the device leads it (`eraseSector_leads`, `programPage_leads`), and
ends as the device ends it.
-/

namespace FlashBench.Session

variable {σ : Type} {inv post : σ → Prop} {g : Geometry} {session : Session σ} {address : UInt32}
  {Q : Unit → σ → Prop} {E : FlashError → σ → Prop} {S : Fault → σ → Prop}

theorem endAddress_of_spans {start size : UInt32} (h : session.device.Spans inv start size) :
    Act.Ends inv session.endAddress (start.toNat + size.toNat) inv := by
  unfold endAddress
  exact .bind h.startAddress (.bind h.size (.pure _))

theorem endAddress_ends (h : session.device.Reports inv g) :
    Act.Ends inv session.endAddress g.stop inv :=
  endAddress_of_spans h.spans

/-! ## The window -/

section Range

variable {len : Nat}

theorem checkRange_of_spans {start size : UInt32} (h : session.device.Spans inv start size)
    (hfirst : start.toNat ≤ address.toNat)
    (hlast : address.toNat + len ≤ start.toNat + size.toNat) :
    Attempt.Ends inv (session.checkRange address len) (.ok ()) inv := by
  unfold checkRange
  refine .bind (.lift h.startAddress) (.neg (Nat.not_lt.mpr hfirst) ?_)
  exact .bind (.lift (endAddress_of_spans h)) (.neg (Nat.not_lt.mpr hlast) (.pure _))

theorem checkRange_ends (h : session.device.Reports inv g)
    (hfirst : g.start.toNat ≤ address.toNat) (hlast : address.toNat + len ≤ g.stop) :
    Attempt.Ends inv (session.checkRange address len) (.ok ()) inv :=
  checkRange_of_spans h.spans hfirst hlast

theorem checkRange_refuses (h : session.device.Reports inv g)
    (hout : address.toNat < g.start.toNat ∨ g.stop < address.toNat + len) :
    Attempt.Ends inv (session.checkRange address len) (.error .outOfRange) inv := by
  unfold checkRange
  by_cases hfirst : address.toNat < g.start.toNat
  · exact .bind (.lift h.startAddress) (.refuse hfirst)
  · have hlast := hout.resolve_left hfirst
    refine .bind (.lift h.startAddress) (.neg hfirst ?_)
    exact .bind (.lift (endAddress_ends h)) (.pos hlast (.throw _))

theorem read_ends (h : session.device.Reports inv g)
    (hfirst : g.start.toNat ≤ address.toNat) (hlast : address.toNat + len ≤ g.stop)
    {outcome : Except FlashError ByteArray}
    (hread : Attempt.Ends inv (session.device.read address len) outcome post) :
    Attempt.Ends inv (session.read address len) outcome post :=
  .bind (checkRange_ends h hfirst hlast) hread

end Range

/-! ## Erasing -/

section Erase

theorem eraseSector_leads (h : session.device.Reports inv g)
    (hvalid : g.sectorSize address ≠ invalidSize) (hsize : g.sectorSize address ≠ 0)
    (haligned : (g.sectorSize address).toNat ∣ address.toNat)
    (herase : Attempt.Leads inv (session.device.eraseSector address) Q E S) :
    Attempt.Leads inv (session.eraseSector address) Q E S := by
  have hmod := (Word.mod_eq_zero_iff address (g.sectorSize address)).mpr haligned
  refine .bind_ends (.lift (h.sectorSize _)) (.guard (fun hinvalid => absurd hinvalid hvalid) ?_)
  refine fun _ => .guard (fun hbroken => ?_) fun _ => herase
  simp [hsize, hmod] at hbroken

theorem eraseSector_ends (h : session.device.Reports inv g)
    (hvalid : g.sectorSize address ≠ invalidSize) (hsize : g.sectorSize address ≠ 0)
    (haligned : (g.sectorSize address).toNat ∣ address.toNat) {outcome : Except FlashError Unit}
    (herase : Attempt.Ends inv (session.device.eraseSector address) outcome post) :
    Attempt.Ends inv (session.eraseSector address) outcome post :=
  (eraseSector_leads h hvalid hsize haligned (.of_ends herase)).ends

theorem eraseSector_outOfRange (h : session.device.Reports inv g)
    (hinvalid : g.sectorSize address = invalidSize) :
    Attempt.Ends inv (session.eraseSector address) (.error .outOfRange) inv := by
  unfold eraseSector
  exact .bind (.lift (h.sectorSize _)) (.refuse hinvalid)

theorem eraseSector_alignment (h : session.device.Reports inv g)
    (hvalid : g.sectorSize address ≠ invalidSize)
    (hbroken : ¬ (g.sectorSize address).toNat ∣ address.toNat) :
    Attempt.Ends inv (session.eraseSector address) (.error .alignment) inv := by
  have hmod : address % g.sectorSize address ≠ 0 :=
    fun hmod => hbroken ((Word.mod_eq_zero_iff _ _).mp hmod)
  unfold eraseSector
  exact .bind (.lift (h.sectorSize _)) (.neg hvalid (.refuse (.inr hmod)))

end Erase

/-! ## Programming -/

section Program

variable {data : ByteArray}

theorem programPage_leads (h : session.device.Reports inv g) (hpage : 0 < g.pageSize.toNat)
    (hfirst : g.start.toNat ≤ address.toNat) (hlast : address.toNat + data.size ≤ g.stop)
    (hsome : data.size ≠ 0) (hpages : g.pageSize.toNat ∣ data.size)
    (haligned : g.pageSize.toNat ∣ address.toNat)
    (hprogram : Attempt.Leads inv (session.device.programPage address data) Q E S) :
    Attempt.Leads inv (session.programPage address data) Q E S := by
  have hmod : address % g.pageSize = 0 := (Word.mod_eq_zero_iff _ _).mpr haligned
  unfold programPage
  refine .bind_ends (checkRange_ends h hfirst hlast) (.bind_ends (.lift h.pageSize) ?_)
  refine .guard (fun hnone => absurd hnone hsome) fun _ => ?_
  -- the page size is not zero, so the remainder is no fault
  rw [Word.remainder_of_dvd hpage hpages]
  refine .bind_ends (.checked _) (.guard (fun hbroken => ?_) fun _ => hprogram)
  simp [hmod] at hbroken

theorem programPage_ends (h : session.device.Reports inv g) (hpage : 0 < g.pageSize.toNat)
    (hfirst : g.start.toNat ≤ address.toNat) (hlast : address.toNat + data.size ≤ g.stop)
    (hsome : data.size ≠ 0) (hpages : g.pageSize.toNat ∣ data.size)
    (haligned : g.pageSize.toNat ∣ address.toNat) {outcome : Except FlashError Unit}
    (hprogram : Attempt.Ends inv (session.device.programPage address data) outcome post) :
    Attempt.Ends inv (session.programPage address data) outcome post :=
  (programPage_leads h hpage hfirst hlast hsome hpages haligned (.of_ends hprogram)).ends

theorem programPage_outOfRange (h : session.device.Reports inv g)
    (hout : address.toNat < g.start.toNat ∨ g.stop < address.toNat + data.size) :
    Attempt.Ends inv (session.programPage address data) (.error .outOfRange) inv :=
  .bind_error (checkRange_refuses h hout)

theorem programPage_alignment (h : session.device.Reports inv g) (hpage : 0 < g.pageSize.toNat)
    (hfirst : g.start.toNat ≤ address.toNat) (hlast : address.toNat + data.size ≤ g.stop)
    (hbroken : data.size = 0 ∨ ¬ g.pageSize.toNat ∣ data.size ∨
      ¬ g.pageSize.toNat ∣ address.toNat) :
    Attempt.Ends inv (session.programPage address data) (.error .alignment) inv := by
  unfold programPage
  refine .bind (checkRange_ends h hfirst hlast) (.bind (.lift h.pageSize) ?_)
  by_cases hsome : data.size = 0
  · exact .refuse hsome
  · have hexcess : data.size % g.pageSize.toNat ≠ 0 ∨ address % g.pageSize ≠ 0 := by
      rcases hbroken.resolve_left hsome with hpages | haligned
      · exact .inl fun hmod => hpages (Nat.dvd_of_mod_eq_zero hmod)
      · exact .inr fun hmod => haligned ((Word.mod_eq_zero_iff _ _).mp hmod)
    refine .neg hsome ?_
    rw [Word.remainder, if_neg (Nat.ne_of_gt hpage)]
    exact .bind (.checked _) (.refuse hexcess)

end Program

end FlashBench.Session
