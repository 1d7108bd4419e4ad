import LayeredSchema.Proofs.Assembly.Kept
import LayeredSchema.Proofs.Registry.Tags
import Mathlib

/-!
Payloads of overlay commands: what the properties of a command are read as is always a payload that
its kind decodes, and the body that it decodes to has what was given and blank values for the rest.
-/

namespace LayeredSchema

namespace Kind

def shape? (k : Kind) (key : String) : Option Shape := k.shapes?.bind fun shapes => shapes.lookup key

def blank? (k : Kind) (key : String) : Option Json := (k.shape? key).bind Shape.blank?

def settled (k : Kind) (key : String) (v : Json) : Json :=
  match k.shape? key with
  | some sh => sh.settled v
  | none => v

variable {k : Kind} {key : String} {v : Json}

lemma settled_of_shape {sh : Shape} (h : k.shape? key = some sh) :
    k.settled key v = sh.settled v := by
  rw [settled, h]

lemma settled_of_ne (hk : k ≠ .sensitive) : k.settled key v = v := by
  rw [settled]
  split
  · rename_i sh hsh
    obtain ⟨shapes, hs, hsh⟩ := Option.bind_eq_some_iff.mp hsh
    obtain ⟨ls, rs, rfl, -⟩ := List.lookup_eq_some_iff.mp hsh
    have hl := list_mem_shapes hs (List.mem_append_right ls List.mem_cons_self)
    cases sh with
    | list => exact absurd (hl.mp rfl) hk
    | _ => rfl
  · rfl

lemma get?_completed_of_not_null {payload : Table Json}
    (hn : ∀ v, payload.get? key = some v → v ≠ .null) : (k.completed payload).get? key =
      ((payload.get? key).map (k.settled key)).or (k.blank? key) := by
  cases hs : k.shapes? with
  | none =>
    have hc : k.completed payload = payload := by simp only [completed, hs]
    have hb : k.shape? key = none := by simp only [shape?, hs, Option.bind_none]
    rw [hc]
    cases payload.get? key <;> simp [settled, blank?, hb]
  | some shapes =>
    have hb : k.shape? key = Entries.get? shapes key := by
      rw [shape?, hs, Entries.get?_eq_lookup, Option.bind_some]
    rw [get?_completed hs]
    cases hv : payload.get? key with
    | none => cases hg : Entries.get? shapes key <;> simp [blank?, hb, hg, written]
    | some v =>
      have := hn v hv
      cases hg : Entries.get? shapes key <;> cases v <;> simp_all [settled, written]

end Kind

lemma Definition.completed_tag {d : Definition} (ht : d.kind = .custom → Kind.ofTag? d.tag = none)
    (payload : Table Json) : Body.completed d.tag payload = d.kind.completed payload := by
  by_cases hk : d.kind = .custom
  · rw [Body.completed, ht hk, hk]
    rfl
  · rw [Body.completed, Definition.tag_of_kind hk, Kind.ofTag?_tagOf hk]

namespace Assembly

variable {ctx : Context} {kind : Kind} {p : Property} {ps : List Property} {s : Progress} {v : Json}

lemma exists_ofPayload_of_read {d : Definition} (ht : d.kind = .custom → Kind.ofTag? d.tag = none)
    (h : ps.foldlM (Progress.read ctx d.kind) {} = .ok s) :
    ∃ b, Body.ofPayload d.tag s.payload = .ok b ∧ b.kind = d.kind := by
  by_cases hk : d.kind = .custom
  · have hi := isOverlayTag_of_custom hk
    exact ⟨_, Body.ofPayload_of_customTag ⟨d.tag, hi, ht hk⟩, hk.symm⟩
  · rw [Body.ofPayload_of_ofTag? (Definition.tag_of_kind hk ▸ Kind.ofTag?_tagOf hk)]
    have hn : ∀ e ∈ s.payload.entries, e.2.IsNormal := fun e he => (plain_of_read h e he).isNormal
    have ht : ∀ e ∈ s.payload.entries, d.kind.Takes e.1 e.2 := by
      intro e he
      obtain ⟨q, -, hq, hv⟩ := property_of_read h e he
      exact hq ▸ (payloadValue_ok_iff.mp hv).2
    obtain ⟨b, hb⟩ := (Body.ofKind_ok_iff_takes hk hn).mpr ht
    exact ⟨b, hb, Body.kind_of_ofKind hb⟩

lemma get?_toPayload_of_read {d : Definition} (ht : d.kind = .custom → Kind.ofTag? d.tag = none)
    (h : ps.foldlM (Progress.read ctx d.kind) {} = .ok s) {b : Body}
    (hb : Body.ofPayload d.tag s.payload = .ok b) (key : String) : b.toPayload.get? key =
      ((s.payload.get? key).map (d.kind.settled key)).or (d.kind.blank? key) := by
  have hp := plain_of_read h
  rw [Body.toPayload_ofPayload (fun e he => (hp e he).isNormal) hb, Definition.completed_tag ht]
  -- null counts as nothing in a payload, but no property stands for it
  refine Kind.get?_completed_of_not_null fun v hv => ?_
  rintro rfl
  exact Json.Plain.ne_null (hp _ (Entries.mem_of_get? hv)) rfl

/-- What a kind asks of a property of a command: the language as a text, or something that stands for
a value that the kind takes under the key. -/
def Passes (kind : Kind) (p : Property) : Prop :=
  (p.key = "language" ∧ ∃ l, p.value = .text l) ∨
    (p.key ∉ Overlay.reservedKeys ∧ ∃ v, p.value.Stands kind v ∧ kind.Takes p.key v)

lemma exists_read_iff : (∃ s, ps.foldlM (Progress.read ctx kind) {} = .ok s) ↔
    (ps.map Property.key).Nodup ∧ ∀ p ∈ ps, Passes kind p := by
  constructor
  · rintro ⟨s, hs⟩
    obtain ⟨hn, hh⟩ := has_of_foldlM_read hs
    refine ⟨hn, fun p hp => ?_⟩
    rcases hh p hp with ⟨hk, l, hl, -⟩ | ⟨hr, v, hv, -⟩
    · exact .inl ⟨hk, l, hl⟩
    · exact .inr ⟨hr, v, payloadValue_ok_iff.mp hv⟩
  · rintro ⟨hn, ha⟩
    refine exists_foldlM_read ctx kind hn fun p hp => (ha p hp).imp_right fun ⟨hr, v, hv⟩ => ?_
    exact ⟨hr, v, payloadValue_ok_iff.mpr hv⟩

/-- What a body has from the properties of a command: the values that they stand for, the names of
a sensitive list as a set, and blank values under all other keys. A custom kind has all that is in a
property if no block within it gives a key twice. -/
structure Carries (kind : Kind) (ps : List Property) (b : Body) : Prop where
  sameKind : b.kind = kind
  given : ∀ p ∈ ps, p.key ≠ "language" → ∃ v, p.value.Stands kind v ∧
    ((kind = .custom → ¬p.value.Repeats) → p.value.Whole v) ∧
    (kind ≠ .sensitive → b.toPayload.get? p.key = some v) ∧
    (kind = .sensitive → ∃ names, v = .ofTexts names ∧
      b.toPayload.get? p.key = some (.ofTexts names.toFinset.sort))
  blank : ∀ key, (∀ p ∈ ps, p.key = key → key = "language") →
    b.toPayload.get? key = kind.blank? key

lemma settled_of_sensitive (h : payloadValue ctx .sensitive p = .ok v) :
    ∃ names, v = .ofTexts names ∧
      Kind.sensitive.settled p.key v = .ofTexts names.toFinset.sort := by
  obtain ⟨hs, sh, hsh, hf⟩ := payloadValue_ok_iff.mp h
  obtain ⟨hk, rfl⟩ := Prod.mk.inj (List.mem_singleton.mp (Entries.mem_of_get? hsh))
  have hl : Kind.sensitive.shape? p.key = some .list := hk ▸ rfl
  obtain ⟨names, rfl⟩ := Shape.fits_list_iff.mp (hf.resolve_left hs.plain.ne_null)
  exact ⟨names, rfl, (Kind.settled_of_shape hl).trans (Shape.settled_ofTexts names)⟩

lemma get?_eq_none_of_read (h : ps.foldlM (Progress.read ctx kind) {} = .ok s) {key : String}
    (hn : ∀ p ∈ ps, p.key = key → key = "language") : s.payload.get? key = none := by
  refine Entries.get?_eq_none_iff.mpr fun hm => ?_
  obtain ⟨e, he, rfl⟩ := List.mem_map.mp hm
  obtain ⟨q, hq, hqe, -⟩ := property_of_read h e he
  have hr := (foldlM_read_invariant h (fun e he => absurd he List.not_mem_nil) e he).1
  exact hr (hn q hq hqe ▸ language_mem_reservedKeys)

lemma carries_of_read {d : Definition} (ht : d.kind = .custom → Kind.ofTag? d.tag = none)
    (h : ps.foldlM (Progress.read ctx d.kind) {} = .ok s) :
    ∃ b, Body.ofPayload d.tag s.payload = .ok b ∧ Carries d.kind ps b := by
  obtain ⟨b, hb, hk⟩ := exists_ofPayload_of_read ht h
  have hg := get?_toPayload_of_read ht h hb
  refine ⟨b, hb, hk, fun p hp hl => ?_, fun key hn => ?_⟩
  · obtain ⟨v, hv, hs⟩ := ((has_of_foldlM_read h).2 p hp).exists_payload hl
    have hst := (payloadValue_ok_iff.mp hv).1
    have hr (hc : d.kind = .custom → ¬p.value.Repeats) : ¬p.value.Repeats := by
      by_cases hd : d.kind = .custom
      · exact hc hd
      · exact hst.not_repeats hd
    rw [hg, hs, Option.map_some, Option.some_or]
    refine ⟨v, hst, fun hc => hst.kept.whole (hr hc),
      fun hd => congrArg some (Kind.settled_of_ne hd), fun hd => ?_⟩
    rw [hd] at hv ⊢
    obtain ⟨names, rfl, hw⟩ := settled_of_sensitive hv
    exact ⟨names, rfl, congrArg some hw⟩
  · rw [hg, get?_eq_none_of_read h hn, Option.map_none, Option.none_or]

section Overlay

variable {calls : List Registry.Call} (hc : ∀ c ∈ calls, c.IsCustom) {name : String} {d : Definition}
  (hd : (Registry.builtin.run calls).resolve name = some d)
include hc hd

/-- After any calls that insert custom definitions and add aliases, a command fails only where one
of its properties does: the payload that is read always decodes, into a body of the kind of the
definition. A command succeeds if its keys are distinct and each property passes on its own. -/
theorem overlay_decodes (line : ℕ) (ps : List Property) :
    (∀ e, overlay (Registry.builtin.run calls) line name ps = .error e ↔
      ps.foldlM (Progress.read ⟨d.name, line⟩ d.kind) {} = .error e) ∧
    ((∃ o, overlay (Registry.builtin.run calls) line name ps = .ok o) ↔
      (ps.map Property.key).Nodup ∧ ∀ p ∈ ps, Passes d.kind p) ∧
    ∀ s, ps.foldlM (Progress.read ⟨d.name, line⟩ d.kind) {} = .ok s →
      ∃ b, Body.ofPayload d.tag s.payload = .ok b ∧
        overlay (Registry.builtin.run calls) line name ps = .ok (.make s.language b) ∧
        Carries d.kind ps b := by
  have ht : d.kind = .custom → Kind.ofTag? d.tag = none :=
    Registry.ofTag?_of_custom hc (Registry.mem_of_resolve hd)
  have hs : ∀ s, ps.foldlM (Progress.read ⟨d.name, line⟩ d.kind) {} = .ok s →
      ∃ b, Body.ofPayload d.tag s.payload = .ok b ∧
        overlay (Registry.builtin.run calls) line name ps = .ok (.make s.language b) ∧
        Carries d.kind ps b := by
    intro s h
    obtain ⟨b, hb, hcb⟩ := carries_of_read ht h
    exact ⟨b, hb, overlay_ok_iff.mpr ⟨d, s, b, hd, h, hb, rfl⟩, hcb⟩
  refine ⟨fun e => ?_, ?_, hs⟩
  · cases h : ps.foldlM (Progress.read ⟨d.name, line⟩ d.kind) {} with
    | ok s =>
      obtain ⟨b, -, ho, -⟩ := hs s h
      simp [ho]
    | error e' => simp [overlay, hd, h, bind, Except.bind]
  · have hr : (∃ s, ps.foldlM (Progress.read ⟨d.name, line⟩ d.kind) {} = .ok s) ↔ _ :=
      exists_read_iff
    rw [← hr]
    constructor
    · rintro ⟨o, ho⟩
      obtain ⟨d', s, b, hd', h, -⟩ := overlay_ok_iff.mp ho
      obtain rfl := Option.some.inj (hd.symm.trans hd')
      exact ⟨s, h⟩
    · rintro ⟨s, h⟩
      obtain ⟨b, -, ho, -⟩ := hs s h
      exact ⟨_, ho⟩

end Overlay

def sensitiveProperties : List Property :=
  [.mk 2 "attributes" (.list ["b", "a", "b"]), .mk 3 "language" (.text "en")]

/-- A sensitive list is kept as a set and the same list of a custom kind as it is, but within a
property of a custom kind the first of two values under a key is lost. -/
theorem overlay_decodes_sensitive :
    (∀ c ∈ Registry.captionCalls, c.IsCustom) ∧
    (∃ b, overlay (Registry.builtin.run Registry.captionCalls) 1 "Sensitive" sensitiveProperties =
        .ok (.make (some "en") b) ∧
      b.kind = .sensitive ∧ b.toPayload.get? "attributes" = some (.ofTexts ["a", "b"])) ∧
    (∃ b, overlay (Registry.builtin.run Registry.captionCalls) 1 "plan" sensitiveProperties =
        .ok (.make (some "en") b) ∧
      b.kind = .custom ∧ b.toPayload.get? "attributes" = some (.ofTexts ["b", "a", "b"])) ∧
    ∃ b, overlay (Registry.builtin.run Registry.captionCalls) 1 "plan"
        [.mk 2 "notes" (.block notesTwice)] = .ok (.make none b) ∧
      b.toPayload.get? "notes" = some (.object [("a", .string "2")]) ∧
      ¬PropertyValue.Whole (.block notesTwice) (.object [("a", .string "2")]) := by
  have hc : ∀ c ∈ Registry.captionCalls, c.IsCustom := by
    simp [Registry.captionCalls, Registry.Call.IsCustom, Definition.custom]
  have hs : (Registry.builtin.run Registry.captionCalls).resolve "Sensitive" =
      some (.builtin .sensitive) := by decide +kernel
  have hp : (Registry.builtin.run Registry.captionCalls).resolve "plan" =
      some (.custom "Lay Out" "1.0.0" true ["lay-out", "plan"]) := by decide +kernel
  refine ⟨hc, ?_, ?_, ?_⟩
  · obtain ⟨b, -, ho, hb⟩ := (overlay_decodes hc hs 1 sensitiveProperties).2.2
      ⟨some "en", .ofList [("attributes", .ofTexts ["b", "a", "b"])]⟩ rfl
    obtain ⟨v, hv, -, -, hw⟩ := hb.given _ List.mem_cons_self (by decide)
    obtain ⟨names, rfl, hg⟩ := hw rfl
    have hn := hv.unique (.list ["b", "a", "b"])
    obtain rfl : names = ["b", "a", "b"] :=
      List.map_injective_iff.mpr (fun _ _ => Json.string.inj) (Json.array.inj hn)
    rw [← NameSet.names_ofList] at hg
    exact ⟨b, ho, hb.sameKind, hg⟩
  · obtain ⟨b, -, ho, hb⟩ := (overlay_decodes hc hp 1 sensitiveProperties).2.2
      ⟨some "en", .ofList [("attributes", .ofTexts ["b", "a", "b"])]⟩ rfl
    obtain ⟨v, hv, -, hw, -⟩ := hb.given _ List.mem_cons_self (by decide)
    obtain rfl := hv.unique (.list ["b", "a", "b"])
    exact ⟨b, ho, hb.sameKind, hw (by decide)⟩
  · obtain ⟨b, -, ho, hb⟩ := (overlay_decodes hc hp 1 [.mk 2 "notes" (.block notesTwice)]).2.2
      ⟨none, .ofList [("notes", .object [("a", .string "2")])]⟩ rfl
    obtain ⟨v, hv, -, hw, -⟩ := hb.given _ List.mem_cons_self (by decide)
    obtain rfl : v = .object [("a", .string "2")] := hv.unique (stands_customValue (.block notesTwice))
    exact ⟨b, ho, hw (by decide), not_whole_notesTwice _⟩

end Assembly

end LayeredSchema
