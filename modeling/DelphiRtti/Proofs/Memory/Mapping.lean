import DelphiRtti.Proofs.Memory

/-!
# Mapping regions one after the other

A region is mapped where it overlaps no other one, and goes before the first
region with a base that is not smaller.  So the regions stay in order, and what
could be read before can still be read.  Overlapping is symmetric, so the order
in which regions are given neither decides whether all of them can be mapped nor
what is read from them afterwards.
-/

namespace DelphiRtti

namespace Image

variable {image next other : Image} {region found : Region}
  {regions left right : List Region} {address start : Address} {size : Nat}
  {bytes : List UInt8}

/-- Whether the regions are in order of their bases, which need not differ. -/
def Ascending (image : Image) : Prop :=
  image.regions.Pairwise fun earlier later => earlier.base.toNat
    ≤ later.base.toNat

theorem place_ascending (region : Region)
    (ascending : regions.Pairwise fun earlier later => earlier.base.toNat
      ≤ later.base.toNat) :
    (place region regions).Pairwise
      fun earlier later => earlier.base.toNat ≤ later.base.toNat := by
  induction regions with
  | nil => exact List.pairwise_singleton _ _
  | cons head rest induction =>
      obtain ⟨first, restAscending⟩ := List.pairwise_cons.1 ascending
      rw [place]
      split
      case isTrue before =>
          refine List.pairwise_cons.2 ⟨?_, induction restAscending⟩
          intro later member
          rcases List.mem_cons.1 ((place_perm region rest).mem_iff.1 member)
            with rfl | old
          · exact Nat.le_of_lt before
          · exact first later old
      case isFalse notBefore =>
          have headLater : region.base.toNat ≤ head.base.toNat :=
            Nat.le_of_not_lt notBefore
          refine List.pairwise_cons.2 ⟨?_, ascending⟩
          intro later member
          rcases List.mem_cons.1 member with rfl | old
          · exact headLater
          · exact Nat.le_trans headLater (first later old)

theorem Ascending.map (ascending : image.Ascending)
    (mapped : image.map region = .ok next) : next.Ascending := by
  rw [Image.map] at mapped
  split at mapped
  case isTrue => cases mapped
  case isFalse =>
      cases mapped
      exact place_ascending region ascending

/-- Of regions that lie apart, no two contain the same address. -/
theorem length_le_one_of_contains (apart : regions.Pairwise Region.Apart)
    (inside : ∀ region ∈ regions, region.contains address = true) :
    regions.length ≤ 1 := by
  cases regions with
  | nil => exact Nat.zero_le 1
  | cons first rest =>
      cases rest with
      | nil => exact Nat.le_refl 1
      | cons second others =>
          have separate : first.Apart second :=
            (List.pairwise_cons.1 apart).1 second List.mem_cons_self
          have overlap :=
            Region.overlaps_of_contains (inside first List.mem_cons_self)
            (inside second (.tail _ List.mem_cons_self))
          cases overlap.symm.trans separate

theorem Apart.length_containing_le (apart : image.Apart) (address : Address) :
    (image.regions.filter fun region => region.contains address).length ≤ 1 :=
  length_le_one_of_contains (List.Pairwise.filter _ apart) fun _ member =>
    (List.mem_filter.1 member).2

theorem Apart.regionAt?_map (apart : image.Apart)
    (mapped : image.map region = .ok next)
    (here : image.regionAt? address = some found) :
    next.regionAt? address = some found := by
  obtain ⟨listed, inside⟩ := mem_of_regionAt? here
  apply (apart.map mapped).regionAt?_eq_some _ inside
  rw [(map_eq_ok mapped).2.mem_iff]
  exact .tail _ listed

theorem Apart.read_map (apart : image.Apart)
    (mapped : image.map region = .ok next)
    (readable : image.read start size = .ok bytes) :
    next.read start size = .ok bytes := by
  cases here : image.regionAt? start with
  | none =>
      rw [read, here] at readable
      split at readable
      case isTrue nothing =>
          cases readable
          rw [read, if_pos nothing]
      case isFalse => cases readable
  | some found =>
      rw [read, here] at readable
      rw [read, apart.regionAt?_map mapped here]
      exact readable

theorem Apart.readByte_map
    {byte : UInt8} (apart : image.Apart) (mapped : image.map region = .ok next)
    (readable : image.readByte start = .ok byte) :
    next.readByte start = .ok byte := by
  rw [readByte] at readable ⊢
  cases single : image.read start 1 with
  | error => simp [single] at readable
  | ok bytes =>
      rw [apart.read_map mapped single]
      rw [single] at readable
      exact readable

def offer (image : Image) (region : Region) : Except MemoryError Unit × Image :=
  match image.map region with
  | .ok next => (.ok (), next)
  | .error failure => (.error failure, image)

theorem offer_of_apart (free : ∀ other ∈ image.regions, region.Apart other) :
    image.offer region = (.ok (), ⟨place region image.regions⟩) := by
  have accepted : image.regions.any region.overlaps = false := by
    simpa [Region.Apart] using free
  rw [offer, map, accepted]
  rfl

theorem offer_of_overlaps
    (taken : ∃ other ∈ image.regions, region.overlaps other = true) :
    image.offer region
      = (.error (.overlap region.name region.base), image) := by
  have refused : image.regions.any region.overlaps = true :=
    List.any_eq_true.2 taken
  rw [offer, map, refused]
  rfl

/-- The image after some regions were offered in a row. -/
def offerAll : List Region → Image → Image
  | [], image => image
  | region :: later, image => offerAll later (image.offer region).2

/-- The image with all of some regions, if none of them is refused when
they are mapped in a row. -/
def mapAll : List Region → Image → Except MemoryError Image
  | [], image => .ok image
  | region :: later, image =>
      match image.map region with
      | .ok next => mapAll later next
      | .error failure => .error failure

theorem offerAll_keeps {property : Image → Prop}
    (kept : ∀ {before after : Image} {region : Region}, property before →
      before.map region = .ok after → property after) (regions : List Region)
    (initially : property image) : property (offerAll regions image) := by
  -- What mapping a region keeps, offering regions keeps, for a refused one
  -- changes nothing.
  induction regions generalizing image with
  | nil => exact initially
  | cons region later induction =>
      apply induction
      rw [offer]
      cases mapped : image.map region with
      | error => exact initially
      | ok => exact kept initially mapped

theorem apart_offerAll (regions : List Region) :
    (offerAll regions .empty).Apart :=
  offerAll_keeps (fun apart mapped => apart.map mapped) regions apart_empty

theorem offerAll_of_mapAll (mapped : mapAll regions image = .ok next) :
    offerAll regions image = next := by
  induction regions generalizing image with
  | nil => exact Except.ok.inj mapped
  | cons region later induction =>
      rw [mapAll] at mapped
      rw [offerAll, offer]
      cases placed : image.map region with
      | error => simp [placed] at mapped
      | ok => exact induction (by simpa [placed] using mapped)

theorem mapAll_eq_ok (mapped : mapAll regions image = .ok next) :
    next.regions.Perm (image.regions ++ regions) := by
  induction regions generalizing image with
  | nil =>
      cases mapped
      rw [List.append_nil]
  | cons region later induction =>
      rw [mapAll] at mapped
      split at mapped
      case h_1 placed =>
          have first := (map_eq_ok placed).2
          exact (induction mapped).trans
            ((first.append_right later).trans List.perm_middle.symm)
      case h_2 => cases mapped

theorem exists_mapAll_eq_ok_iff (apart : image.Apart) (regions : List Region) :
    (∃ next, mapAll regions image = .ok next)
      ↔ (image.regions ++ regions).Pairwise Region.Apart := by
  induction regions generalizing image with
  | nil =>
      rw [List.append_nil]
      exact ⟨fun _ => apart, fun _ => ⟨image, rfl⟩⟩
  | cons region later induction =>
      -- The first region goes to the front, for its own place among the others
      -- depends on the bases.
      rw [mapAll, List.perm_middle.pairwise_iff Region.Apart.symm]
      cases placed : image.map region with
      | error =>
          constructor
          · rintro ⟨next, failed⟩
            cases failed
          · intro allApart
            have free := (List.pairwise_cons.1 allApart).1
            obtain ⟨next, mapped⟩ := exists_map_eq_ok_iff.2 fun other there =>
              free other (List.mem_append_left _ there)
            cases placed.symm.trans mapped
      | ok next =>
          have first := (map_eq_ok placed).2
          apply (induction (apart.map placed)).trans
          exact (first.append_right later).pairwise_iff Region.Apart.symm

/-- Whether two images show the same at every address. -/
structure Alike (image other : Image) : Prop where
  regionAt : ∀ address, image.regionAt? address = other.regionAt? address
  executable : ∀ address,
    image.isExecutable address = other.isExecutable address
  readable : ∀ address size, image.read address size = other.read address size

theorem alike_of_regionAt?
    (same : ∀ address, image.regionAt? address = other.regionAt? address) :
    image.Alike other where
  regionAt := same
  executable address := by rw [isExecutable, isExecutable, same]
  readable address size := by rw [read, read, same]

theorem Apart.alike_of_perm (apart : image.Apart)
    (permuted : image.regions.Perm other.regions) : image.Alike other := by
  have otherApart : other.Apart :=
    (permuted.pairwise_iff Region.Apart.symm).1 apart
  apply alike_of_regionAt?
  intro address
  apply Option.ext
  intro region
  rw [apart.regionAt?_eq_some_iff, otherApart.regionAt?_eq_some_iff,
    permuted.mem_iff]

/-- Whatever regions are offered to an image without regions, those that are
mapped are in order of their bases, and at most one of them contains an address;
a region is refused exactly if it overlaps one of them, and leaves the image as
it was.  If all regions of a list are mapped, so are those of the list in any
other order, and both images show the same at every address. -/
theorem mapping_ordered_and_order_free (offered : List Region)
    (permuted : left.Perm right) :
    let image := offerAll offered .empty
    image.regions.Pairwise (fun earlier later => earlier.base.toNat
      ≤ later.base.toNat)
      ∧ (∀ address, (image.regions.filter fun region =>
        region.contains address).length ≤ 1)
      ∧ (∀ region,
        ((∃ failure, (image.offer region).1 = .error failure)
          ↔ ∃ other ∈ image.regions, region.overlaps other = true)
        ∧ ∀ failure, (image.offer region).1 = .error failure →
          (image.offer region).2 = image)
      ∧ ((∃ first, mapAll left .empty = .ok first)
        ↔ ∃ second, mapAll right .empty = .ok second)
      ∧ ∀ first second, mapAll left .empty = .ok first →
        mapAll right .empty = .ok second →
        first = offerAll left .empty ∧ second = offerAll right .empty
          ∧ first.Alike second := by
  intro image
  have apart : image.Apart :=
    offerAll_keeps (fun apart mapped => apart.map mapped) offered apart_empty
  have ascending : image.Ascending :=
    offerAll_keeps (fun ascending mapped => ascending.map mapped) offered .nil
  refine ⟨ascending, apart.length_containing_le, ?_, ?_, ?_⟩
  · intro region
    by_cases taken : ∃ other ∈ image.regions, region.overlaps other = true
    · rw [offer_of_overlaps taken]
      exact ⟨iff_of_true ⟨_, rfl⟩ taken, fun _ _ => rfl⟩
    · have free : ∀ other ∈ image.regions, region.Apart other := by
        simpa [Region.Apart] using taken
      rw [offer_of_apart free]
      simp [taken]
  · rw [exists_mapAll_eq_ok_iff apart_empty,
      exists_mapAll_eq_ok_iff apart_empty]
    exact (permuted.append_left _).pairwise_iff Region.Apart.symm
  · intro first second mappedLeft mappedRight
    have firstApart : first.Apart := by
      rw [← offerAll_of_mapAll mappedLeft]
      exact offerAll_keeps
        (fun apart mapped => apart.map mapped) left apart_empty
    have listed : first.regions.Perm second.regions :=
      (mapAll_eq_ok mappedLeft).trans
        ((permuted.append_left _).trans (mapAll_eq_ok mappedRight).symm)
    exact ⟨(offerAll_of_mapAll mappedLeft).symm,
      (offerAll_of_mapAll mappedRight).symm, firstApart.alike_of_perm listed⟩

end Image

/-- Two regions side by side, and one without bytes where the second
one begins. -/
def Region.neighbours : List Region :=
  [⟨"low", .ofNat 4096, #[1, 2, 3, 4], ⟨true, false, false⟩⟩,
    ⟨"high", .ofNat 4100, #[5, 6, 7, 8], ⟨true, false, true⟩⟩,
    ⟨"mark", .ofNat 4100, #[], ⟨true, false, false⟩⟩]

namespace Image

theorem mapping_ordered_and_order_free_neighbours :
    Region.neighbours.Perm Region.neighbours.reverse
      ∧ ∃ first second, mapAll Region.neighbours .empty = .ok first
        ∧ mapAll Region.neighbours.reverse .empty = .ok second
        ∧ first.regions.map Region.name = ["low", "mark", "high"]
        ∧ second.regions.map Region.name = ["low", "high", "mark"]
        ∧ first.read (.ofNat 4100) 4 = second.read (.ofNat 4100) 4
        ∧ first.Alike second := by
  have permuted : Region.neighbours.Perm Region.neighbours.reverse :=
    (List.reverse_perm _).symm
  obtain ⟨_, _, _, _, alike⟩ :=
    mapping_ordered_and_order_free Region.neighbours permuted
  have same := (alike _ _ rfl rfl).2.2
  exact ⟨permuted, _, _, rfl, rfl, rfl, rfl, same.readable _ _, same⟩

end Image

end DelphiRtti
