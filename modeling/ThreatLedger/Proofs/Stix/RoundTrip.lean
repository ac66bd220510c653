/-
  A stored STIX object is read back as it was.

  1. **Kinds** — an object of each kind is read back, one property after the other; a bundle needs its
     raw objects to be read back as they are.
  2. **Objects** — an object that was submitted is sound if the numbers of its raw objects are
     integers, and a sound object is read back from its bytes (`parse_encode`).
  3. **Values** — as a value that stands for itself it is read back with its members sorted: the
     containers around a raw object were counted when it was submitted (`value_parse_encode`).
-/
import ThreatLedger.Proofs.Json.RawValues
import ThreatLedger.Stix.Object

namespace ThreatLedger.Json

section

variable {ρ α : Type} {depth : Nat}

/-- An object whose properties fit is nested one container deeper than they are. -/
theorem fits_schema {schema : Schema ρ} {r : ρ}
    (h : ∀ f ∈ schema.properties, Fits depth (f.value r)) : Fits (depth + 1) (schema.value r) :=
  .object (List.forall_mem_map.mpr h)

theorem fits_list {value : α → Value} {as : List α} (h : ∀ a ∈ as, Fits depth (value a)) :
    Fits (depth + 1) (.array (as.map value)) :=
  .array (List.forall_mem_map.mpr h)

end

end ThreatLedger.Json

namespace ThreatLedger.Stix

open Json

/-! ## Kinds -/

theorem ExternalReference.reads (o : ExternalReference) :
    Reads schema.read (schema.value o) o := by
  have h : ReadsBack o schema.properties _ :=
    .cons (reads_textProperty ..) <| .cons (reads_textProperty ..) .nil
  exact reads_schema h (by decide)

/-- Each property of an indicator is read back, its lists of references item by item. -/
theorem Indicator.reads (o : Indicator) : Reads schema.read (schema.value o) o := by
  have h : ReadsBack o schema.properties _ :=
    .cons (reads_textProperty ..) <| .cons (reads_textProperty ..) <|
    .cons (reads_textProperty ..) <| .cons (reads_textProperty ..) <|
    .cons (reads_textProperty ..) <| .cons (reads_textProperty ..) <|
    .cons (reads_textProperty ..) <| .cons (reads_textProperty ..) <|
    .cons (reads_textProperty ..) <| .cons (reads_textProperty ..) <|
    .cons (reads_listProperty _ _ _ fun label _ => reads_text label) <|
    .cons (reads_int64Property ..) <|
    .cons (reads_listProperty _ _ _ fun reference _ => reference.reads) .nil
  exact reads_schema h (by decide)

/-- Each property of a relationship is read back; all of them are texts. -/
theorem Relationship.reads (o : Relationship) : Reads schema.read (schema.value o) o := by
  have h : ReadsBack o schema.properties _ :=
    .cons (reads_textProperty ..) <| .cons (reads_textProperty ..) <|
    .cons (reads_textProperty ..) <| .cons (reads_textProperty ..) <|
    .cons (reads_textProperty ..) <| .cons (reads_textProperty ..) <|
    .cons (reads_textProperty ..) <| .cons (reads_textProperty ..) .nil
  exact reads_schema h (by decide)

/-- Each property of a sighting is read back, its count as an integer of 64 bits. -/
theorem Sighting.reads (o : Sighting) : Reads schema.read (schema.value o) o := by
  have h : ReadsBack o schema.properties _ :=
    .cons (reads_textProperty ..) <| .cons (reads_textProperty ..) <|
    .cons (reads_textProperty ..) <| .cons (reads_textProperty ..) <|
    .cons (reads_textProperty ..) <| .cons (reads_textProperty ..) <|
    .cons (reads_textProperty ..) <| .cons (reads_int64Property ..) <|
    .cons (reads_textProperty ..) <|
    .cons (reads_listProperty _ _ _ fun ref _ => reads_text ref) .nil
  exact reads_schema h (by decide)

/-- How deep the containers of a raw object may nest inside a bundle. -/
def Bundle.depthInside : Nat := greatestDepth - framesAround

/-- The raw objects of a bundle are read back as they are. -/
def Bundle.Sound (o : Bundle) : Prop := ∀ v ∈ o.objects, Fits depthInside v ∧ v.sorted = v

/-- Each property of a bundle is read back, if its raw objects are values that fit.  These are written
as they stand, so they have to be what reading makes of them. -/
theorem Bundle.reads {o : Bundle} (h : o.Sound) : Reads schema.read (schema.value o) o := by
  have hobjects : ∀ v ∈ o.objects, Reads (raw depthInside) v v := by
    intro v hv
    obtain ⟨hfits, hsorted⟩ := h v hv
    have hreads := reads_raw hfits
    rwa [hsorted] at hreads
  have h : ReadsBack o schema.properties _ :=
    .cons (reads_textProperty ..) <| .cons (reads_textProperty ..) <|
    .cons (reads_textProperty ..) <| .cons (reads_listProperty _ _ _ hobjects) .nil
  exact reads_schema h (by decide)

theorem ExternalReference.fits (o : ExternalReference) {depth : Nat} :
    Fits (depth + 1) (schema.value o) := by
  refine fits_schema ?_
  simp [schema, Property.text, Fits.string]

/-- An indicator is nested as deeply as its references, which are objects in a list; everything else in
it is flat. -/
theorem Indicator.fits (o : Indicator) : Fits greatestDepth (schema.value o) := by
  have hlabels : Fits 126 (.array (o.labels.map .string)) := fits_list fun _ _ => .string
  have hreferences : Fits 126 (.array (o.references.map ExternalReference.schema.value)) :=
    fits_list fun reference _ => reference.fits
  have hconfidence : Fits 126 (.number (.integer o.confidence.toInt)) :=
    .integer (integerFits_int64 o.confidence)
  refine fits_schema ?_
  simp [schema, Property.text, Property.int64, Property.list, Fits.string, hlabels, hreferences,
    hconfidence]

theorem Relationship.fits (o : Relationship) : Fits greatestDepth (schema.value o) := by
  refine fits_schema ?_
  simp [schema, Property.text, Fits.string]

theorem Sighting.fits (o : Sighting) : Fits greatestDepth (schema.value o) := by
  have hcount : Fits 126 (.number (.integer o.count.toInt)) :=
    .integer (integerFits_int64 o.count)
  have hrefs : Fits 126 (.array (o.whereSightedRefs.map .string)) := fits_list fun _ _ => .string
  refine fits_schema ?_
  simp [schema, Property.text, Property.int64, Property.list, Fits.string, hcount, hrefs]

/-- The bundle and its list are the containers that were counted around the raw objects. -/
theorem Bundle.fits {o : Bundle} (h : o.Sound) : Fits greatestDepth (schema.value o) := by
  have hobjects : Fits 126 (.array (o.objects.map fun v => v)) := fits_list fun v hv => (h v hv).1
  refine fits_schema ?_
  simp only [schema, Property.text, Property.list, List.forall_mem_cons, Fits.string, hobjects,
    true_and]
  exact fun f hf => absurd hf List.not_mem_nil

/-- The raw objects of a bundle are as a reader leaves them. -/
def Bundle.AsRead (o : Bundle) : Prop := ∀ v ∈ o.objects, Settled depthInside v

/-- Only the list of the objects says anything about them, and it is read as they stand. -/
theorem Bundle.keeps_asRead : schema.Keeps AsRead := by
  refine List.forall_mem_cons.mpr ⟨?_, List.forall_mem_cons.mpr ⟨?_, List.forall_mem_cons.mpr
    ⟨?_, List.forall_mem_singleton.mpr ?_⟩⟩⟩
  · exact gives_map (gives_anything _) fun _ _ _ h => h
  · exact gives_map (gives_anything _) fun _ _ _ h => h
  · exact gives_map (gives_anything _) fun _ _ _ h => h
  · exact gives_map (gives_list (gives_raw depthInside)) fun _ h _ _ => h

/-! ## Objects -/

namespace Object

/-- The numbers of the raw objects are integers, if the object is a bundle. -/
def Whole : Object → Prop
  | .bundle o => ∀ v ∈ o.objects, v.Whole
  | .indicator _ | .relationship _ | .sighting _ => True

/-- The raw objects are read back as they are, if the object is a bundle. -/
def Sound : Object → Prop
  | .bundle o => o.Sound
  | .indicator _ | .relationship _ | .sighting _ => True

/-- What was parsed, and has no numbers but integers, can be encoded and read back: it is in order
already, and not nested too deep. -/
theorem sound_of_parse {kind : Kind} {b : Bytes} {o : Object} (h : parse kind b = .ok o)
    (hwhole : o.Whole) : o.Sound := by
  cases o with
  | bundle o =>
    obtain rfl : kind = .bundle := (kind_of_parse h).symm
    obtain ⟨_, hparse, ⟨⟩⟩ := map_eq_ok.mp h
    have hread : o.AsRead :=
      Bundle.schema.parse_keeps (fun _ hv => absurd hv List.not_mem_nil) Bundle.keeps_asRead hparse
    exact fun v hv => hread v hv (hwhole v hv)
  | indicator o => trivial
  | relationship o => trivial
  | sighting o => trivial

/-- **Round trip.**  The bytes that a sound object is stored as hold that object.  Every object that was
accepted is sound, so this is so for all that is ever stored. -/
theorem parse_encode {o : Object} (h : o.Sound) : parse o.kind o.encode = .ok o := by
  cases o with
  | indicator o => exact congrArg (Except.map _) o.reads.whole
  | relationship o => exact congrArg (Except.map _) o.reads.whole
  | sighting o => exact congrArg (Except.map _) o.reads.whole
  | bundle o => exact congrArg (Except.map _) (Bundle.reads h).whole

theorem fits {o : Object} (h : o.Sound) : Fits greatestDepth o.value := by
  cases o with
  | indicator o => exact o.fits
  | relationship o => exact o.fits
  | sighting o => exact o.fits
  | bundle o => exact Bundle.fits h

/-- **Values.**  The same bytes hold the value of the object, with its members sorted. -/
theorem value_parse_encode {o : Object} (h : o.Sound) :
    Value.parse o.encode = .ok o.value.sorted := Value.parse_encode (fits h)

end Object
end ThreatLedger.Stix
