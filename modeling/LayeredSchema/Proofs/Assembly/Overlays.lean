import LayeredSchema.Proofs.Assembly.Written
import LayeredSchema.Proofs.Registry.Names

/-!
Overlay commands: what the overlay of a command that succeeds is made of, and the properties that
make a given overlay.
-/

namespace LayeredSchema

namespace Body

lemma toPayload_fits {b : Body} {shapes : List (String × Shape)} (h : b.kind.shapes? = some shapes)
    {e : String × Json} (he : e ∈ b.toPayload.entries) :
    ∃ sh, shapes.lookup e.1 = some sh ∧ sh.Fits e.2 := by
  cases b with
  | metadata | custom => contradiction
  | label t | information t | format t | cardinality t | standard t | mapping t | conformance t =>
    obtain rfl := List.mem_singleton.mp he
    exact ⟨_, Option.some.inj h ▸ rfl, .textTable t⟩
  | entry t =>
    obtain rfl := List.mem_singleton.mp he
    exact ⟨_, Option.some.inj h ▸ rfl, .textTableTable t⟩
  | entryCode t | entryCodeMapping t =>
    obtain rfl := List.mem_singleton.mp he
    exact ⟨_, Option.some.inj h ▸ rfl, .listTable t⟩
  | sensitive names =>
    obtain rfl := List.mem_singleton.mp he
    exact ⟨_, Option.some.inj h ▸ rfl, .list names.names⟩
  | conditional s t =>
    obtain rfl | rfl := by simpa using Entries.mem_of_mem_ofList he
    · exact ⟨_, Option.some.inj h ▸ rfl, .textTable s⟩
    · exact ⟨_, Option.some.inj h ▸ rfl, .listTable t⟩
  | characterEncoding o t | unit o t | link o t =>
    rcases List.mem_append.mp (Entries.mem_of_mem_ofList he) with he | he
    · cases o with
      | none => contradiction
      | some s =>
        obtain rfl := List.mem_singleton.mp he
        exact ⟨_, Option.some.inj h ▸ rfl, .text s⟩
    · obtain rfl := List.mem_singleton.mp he
      exact ⟨_, Option.some.inj h ▸ rfl, .textTable t⟩

lemma toPayload_text {b : Body} (h : b.kind = .metadata) {e : String × Json}
    (he : e ∈ b.toPayload.entries) : ∃ s, e.2 = .string s := by
  cases b with
  | metadata t =>
    obtain ⟨f, _, rfl⟩ := List.mem_map.mp (Entries.mem_of_mem_ofList he)
    exact ⟨f.2, rfl⟩
  | _ => contradiction

end Body

lemma Kind.shapes_unreserved {k : Kind} {shapes : List (String × Shape)}
    (h : k.shapes? = some shapes) {e : String × Shape} (he : e ∈ shapes) :
    e.1 ∉ Overlay.reservedKeys := by
  have hd : ∀ e ∈ shapes, e.1 ∉ Overlay.reservedKeys := by
    cases k with
    | metadata | custom => contradiction
    | _ =>
      obtain rfl := Option.some.inj h
      decide
  exact hd e he

lemma Definition.tag_of_kind {d : Definition} (h : d.kind ≠ .custom) :
    d.tag = Kind.tagOf d.kind.slug Kind.builtinVersion := by
  unfold tag
  cases hk : d.kind with
  | custom => contradiction
  | _ => rfl

lemma Body.kind_of_tag {d : Definition} {b : Body} (hd : d.kind ≠ .custom) (h : b.tag = d.tag) :
    b.kind ≠ .custom ∧ b.kind = d.kind := by
  have hk : Kind.ofTag? b.tag = some d.kind := by
    rw [h, d.tag_of_kind hd]
    exact Kind.ofTag?_tagOf hd
  have hb : b.kind ≠ .custom := by
    intro hc
    cases b with
    | custom t ps => exact nomatch t.notBuiltin.symm.trans hk
    | _ => contradiction
  rw [tag_of_kind hb, Kind.ofTag?_tagOf hb, Option.some.injEq] at hk
  exact ⟨hb, hk⟩

lemma Body.toPayload_of_ofPayload {P : Json → Prop} (hP : ∀ v : Json, v.Plain → P v) {tag : String}
    {payload : Table Json} {b : Body} (h : ofPayload tag payload = .ok b)
    (hu : ∀ e ∈ payload.entries, e.1 ∉ Overlay.reservedKeys)
    (hp : b.kind = .custom → ∀ e ∈ payload.entries, P e.2) :
    ∀ e ∈ b.toPayload.entries, e.1 ∉ Overlay.reservedKeys ∧ P e.2 := by
  rcases ofPayload_ok_iff.mp h with ⟨k, -, h⟩ | ⟨t, -, rfl⟩
  · obtain rfl := kind_of_ofKind h
    intro e he
    cases hs : b.kind.shapes? with
    | some shapes =>
      obtain ⟨sh, hl, hf⟩ := toPayload_fits hs he
      obtain ⟨ls, rs, hlr, -⟩ := List.lookup_eq_some_iff.mp hl
      exact ⟨Kind.shapes_unreserved hs (e := (e.1, sh)) (by simp [hlr]), hP _ hf.plain⟩
    | none =>
      cases hk : b.kind with
      | metadata =>
        rw [hk] at h
        obtain ⟨s, hs⟩ := toPayload_text hk he
        rw [toPayload_of_metadata h] at he
        exact ⟨hu e he, hs ▸ hP _ (.string s)⟩
      | custom => simp [hk, ofKind] at h
      | _ => simp [hk, Kind.shapes?] at hs
  · exact fun e he => ⟨hu e he, hp rfl e he⟩

structure Body.IsWritable (b : Body) : Prop where
  unreserved : ∀ e ∈ b.toPayload.entries, e.1 ∉ Overlay.reservedKeys
  plain : ∀ e ∈ b.toPayload.entries, e.2.Plain

namespace Assembly

variable {ctx : Context} {kind : Kind}

lemma read_ok_iff {s t : Progress} {p : Property} :
    s.read ctx kind p = .ok t ↔
      (p.key = "language" ∧ s.language = none ∧
        ∃ l, p.value = .text l ∧ t = { s with language := some l }) ∨
      (p.key ∉ Overlay.reservedKeys ∧ s.payload.contains p.key = false ∧
        ∃ v, payloadValue ctx kind p = .ok v ∧
          t = { s with payload := s.payload.insert p.key v }) := by
  unfold Progress.read
  by_cases hk : p.key = "language"
  · have hr : "language" ∈ Overlay.reservedKeys := by decide
    simp only [hk, if_true, true_and, hr, not_true_eq_false, false_and, or_false]
    cases hl : s.language with
    | some l => simp [Context.duplicate]
    | none =>
      simp only [Option.isSome_none, Bool.false_eq_true, if_false, Context.text, true_and]
      cases hv : p.value with
      | text l =>
        constructor
        · exact fun h => ⟨l, rfl, (Except.ok.inj h).symm⟩
        · rintro ⟨_, hl, rfl⟩
          exact PropertyValue.text.inj hl ▸ rfl
      | _ => simp [Context.wrongShape, Context.invalid]
  · simp only [hk, if_false, false_and, false_or]
    cases hc : s.payload.contains p.key with
    | true => simp [Context.duplicate]
    | false =>
      by_cases hr : p.key ∈ Overlay.reservedKeys
      · simp [Context.unexpected, hr]
      · simp only [Bool.false_eq_true, if_false, List.contains_iff_mem, hr, not_false_eq_true,
          true_and, Outcome.bind_ok_iff, Outcome.pure_ok_iff, eq_comm (b := t)]

lemma overlay_ok_iff {r : Registry} {line : ℕ} {name : String} {ps : List Property} {o : Overlay} :
    overlay r line name ps = .ok o ↔ ∃ d s b, r.resolve name = some d ∧
      ps.foldlM (Progress.read ⟨d.name, line⟩ d.kind) {} = .ok s ∧
        Body.ofPayload d.tag s.payload = .ok b ∧ o = .make s.language b := by
  unfold overlay
  cases r.resolve name with
  | none => simp
  | some d =>
    simp only [Outcome.bind_ok_iff, Option.some.injEq]
    constructor
    · rintro ⟨s, hs, h⟩
      cases hb : Body.ofPayload d.tag s.payload with
      | error e => simp [hb] at h
      | ok b =>
        simp only [hb, Outcome.pure_ok_iff] at h
        exact ⟨d, s, b, rfl, hs, hb, h.symm⟩
    · rintro ⟨d, s, b, rfl, hs, hb, rfl⟩
      refine ⟨s, hs, ?_⟩
      simp only [hb]
      rfl

lemma foldlM_read_invariant {s t : Progress} {ps : List Property}
    (h : ps.foldlM (Progress.read ctx kind) s = .ok t)
    (hs : ∀ e ∈ s.payload.entries,
      e.1 ∉ Overlay.reservedKeys ∧ (kind = .custom → e.2.Plain)) :
    ∀ e ∈ t.payload.entries, e.1 ∉ Overlay.reservedKeys ∧ (kind = .custom → e.2.Plain) := by
  refine Outcome.foldlM_preserves (fun s : Progress => ∀ e ∈ s.payload.entries,
    e.1 ∉ Overlay.reservedKeys ∧ (kind = .custom → e.2.Plain)) ?_ h hs
  intro s p t _ hs h
  rcases read_ok_iff.mp h with ⟨-, -, l, -, rfl⟩ | ⟨hr, -, v, hv, rfl⟩
  · exact hs
  · intro e he
    rcases Entries.mem_insert he with rfl | he
    · refine ⟨hr, fun hk => ?_⟩
      subst hk
      obtain rfl : customValue p.value = v := Except.ok.inj hv
      exact plain_customValue p.value
    · exact hs e he

structure Made (r : Registry) (o : Overlay) : Prop where
  tagged : ∃ d ∈ r.definitions, d.tag = o.tag
  eq_make : o = .make o.language o.body
  writable : o.body.IsWritable

lemma made_of_overlay {r : Registry} {line : ℕ} {name : String} {ps : List Property} {o : Overlay}
    (h : overlay r line name ps = .ok o) : Made r o := by
  obtain ⟨d, s, b, hr, hs, hb, rfl⟩ := overlay_ok_iff.mp h
  have hi := foldlM_read_invariant hs (fun e he => by contradiction)
  have ht : b.tag = d.tag := Body.tag_of_ofPayload hb
  refine ⟨⟨d, Registry.mem_of_resolve hr, ht.symm⟩, rfl, ?_⟩
  suffices hw : ∀ e ∈ b.toPayload.entries, e.1 ∉ Overlay.reservedKeys ∧ e.2.Plain from
    ⟨fun e he => (hw e he).1, fun e he => (hw e he).2⟩
  refine Body.toPayload_of_ofPayload (fun _ => id) hb (fun e he => (hi e he).1)
    fun hc e he => (hi e he).2 ?_
  -- a built-in kind has a tag of its own, so its payload is not kept as it is
  by_contra hk
  have hb' : Body.ofPayload d.tag s.payload = Body.ofKind d.tag s.payload d.kind :=
    Body.ofPayload_of_ofTag? (Definition.tag_of_kind hk ▸ Kind.ofTag?_tagOf hk)
  exact hk (Body.kind_of_ofKind (hb' ▸ hb) ▸ hc)

lemma foldlM_read {s : Progress} {ps : List Property} {es : Entries Json}
    (hs : Entries.Sorted (s.payload.entries ++ es))
    (hr : ∀ e ∈ es, e.1 ∉ Overlay.reservedKeys)
    (h : List.Forall₂ (fun p e => p.key = e.1 ∧ payloadValue ctx kind p = .ok e.2) ps es) :
    ps.foldlM (Progress.read ctx kind) s =
      .ok { s with payload := ⟨s.payload.entries ++ es, hs⟩ } := by
  induction h generalizing s with
  | nil =>
    rw [List.foldlM_nil]
    simp only [List.append_nil]
    rfl
  | @cons p e ps es hp _ ih =>
    obtain ⟨hk, hv⟩ := hp
    have hlt : ∀ f ∈ s.payload.entries, f.1 < e.1 :=
      fun f hf => hs.lt_of_append hf List.mem_cons_self
    have hn : s.payload.contains p.key = false := by
      rw [hk]
      exact Entries.contains_of_lt hlt
    have hi : (s.payload.insert p.key e.2).entries = s.payload.entries ++ [e] := by
      rw [hk]
      exact Entries.insert_of_lt hlt
    have hp := read_ok_iff.mpr (Or.inr ⟨hk ▸ hr e List.mem_cons_self, hn, e.2, hv, rfl⟩)
    rw [List.foldlM_cons, hp]
    refine (ih (by rw [hi]; simpa using hs) fun e he => hr e (List.mem_cons_of_mem _ he)).trans ?_
    simp [hi]

def GiveLanguage : Option String → List Property → Prop
  | none, ps => ps = []
  | some l, ps => ∃ n, ps = [.mk n "language" (.text l)]

lemma foldlM_read_language {l : Option String} {ps : List Property} (h : GiveLanguage l ps) :
    ps.foldlM (Progress.read ctx kind) {} = .ok { language := l } := by
  cases l with
  | none =>
    obtain rfl := h
    rfl
  | some l =>
    obtain ⟨n, rfl⟩ := h
    rfl

lemma overlay_of_read {r : Registry} {d : Definition} {name : String} {line : ℕ}
    (hd : r.resolve name = some d) {l : Option String} {b : Body} (ht : d.tag = b.tag)
    (hb : ∀ e ∈ b.toPayload.entries, e.1 ∉ Overlay.reservedKeys) {ps qs : List Property}
    (hl : GiveLanguage l ps)
    (hp : List.Forall₂ (fun p e => p.key = e.1 ∧ payloadValue ⟨d.name, line⟩ d.kind p = .ok e.2)
      qs b.toPayload.entries) :
    overlay r line name (ps ++ qs) = .ok (.make l b) := by
  have hs : Body.ofPayload d.tag b.toPayload = .ok b := ht ▸ Body.ofPayload_toPayload b
  have hr : qs.foldlM (Progress.read ⟨d.name, line⟩ d.kind) { language := l } =
      .ok { language := l, payload := b.toPayload } :=
    foldlM_read (s := { language := l }) b.toPayload.sorted hb hp
  refine overlay_ok_iff.mpr ⟨d, { language := l, payload := b.toPayload }, b, hd, ?_, hs, rfl⟩
  rw [List.foldlM_append, foldlM_read_language hl]
  exact hr

lemma payloadValue_of_isWritten {b : Body} (hk : b.kind ≠ .custom) {e : String × Json}
    (he : e ∈ b.toPayload.entries) {p : Property} (hp : p.key = e.1)
    (h : Json.IsWritten e.2 p.value) : payloadValue ctx b.kind p = .ok e.2 := by
  unfold payloadValue
  cases hs : b.kind.shapes? with
  | some shapes =>
    obtain ⟨sh, hl, hf⟩ := Body.toPayload_fits hs he
    simp only [hp, hl]
    exact shaped_of_isWritten hf h
  | none =>
    cases hb : b.kind with
    | metadata =>
      obtain ⟨s, hs⟩ := Body.toPayload_text hb he
      rw [hs] at h ⊢
      exact textValue_of_isWritten h
    | custom => contradiction
    | _ => simp [hb, Kind.shapes?] at hs

lemma payloadValue_custom (p : Property) :
    payloadValue ctx .custom p = .ok (customValue p.value) := rfl

end Assembly

end LayeredSchema
