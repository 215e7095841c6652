import ByteLayout.Proofs.Canonical
import ByteLayout.Proofs.NumberCodec

set_option autoImplicit false

/-!
# Building, then parsing, gives the value back

For a well-formed schema and a canonical value, parsing the bytes that the build writes gives
the value back and consumes exactly those bytes.

The proof follows the schema. Its statement for one node is `ReadsBack`: whatever precedes the
node's bytes in the window, and whatever follows them unless the node may run to the end of
its window; and in any parse scope that answers the names the node reads as the build's scope
does. The parse and the build see different layers — a parse shows a struct's fields as it reads
them, a build shows the whole record and, under a switch, the fields of the value — but the
well-formedness conditions keep every name an expression reads answered alike by both.

## Main definitions

* `ByteLayout.Schema.ReadsBack` — the round trip for one node, in any context.

## Main results

* `ByteLayout.Schema.readsBack` — every node reads back.
* `ByteLayout.Schema.parse_build` — a whole build parses back to its value.
-/

namespace ByteLayout

namespace Schema

open ParseM

/-- The parse of `s` reads back the bytes that a build of a canonical value wrote: from where
they start, whatever precedes them in the window, whatever follows them unless `s` may run to
the end of the window, and in a parse scope that answers the names `s` may read as the build's
scope does. -/
def ReadsBack (s : Schema) : Prop :=
  ∀ ⦃outer vis : List String⦄ ⦃tail : Bool⦄, s.WellFormed outer vis tail →
    (∀ x ∈ vis, x ∈ outer ∨ x = Scope.indexName) →
    ∀ ⦃P B : Scope⦄, P.Agree vis B → ∀ ⦃v : Value⦄, s.Canonical B v →
    ∀ ⦃b : Bytes⦄, write s v B = (.ok (), b) →
    ∀ (pre post : Bytes), (tail = true → post = []) →
      scan s (pre ++ b ++ post).toArray P pre.length = (.ok v, pre.length + b.length)

/-- The bytes of a window from its start, after any prefix. -/
lemma toList_extract_append (pre rest : Bytes) (n : Nat) :
    ((pre ++ rest).toArray.extract pre.length (pre.length + n)).toList = rest.take n := by
  simp

lemma size_append_three (pre b post : Bytes) :
    (pre ++ b ++ post).toArray.size = pre.length + b.length + post.length := by
  simp [Nat.add_assoc]

/-! ### Leaves -/

theorem readsBack_number (kind : NumberKind) (order : ByteOrder) :
    ReadsBack (.number kind order) := by
  intro outer vis tail hs hvis P B hagree v hv b hb pre post hpost
  rw [write_number] at hb
  cases henc : kind.encode order v with
  | error e => rw [henc] at hb; cases hb
  | ok bs =>
    rw [henc] at hb
    cases hb
    have hlen := NumberKind.length_of_encode henc
    rw [scan_number, size_append_three, if_neg (by omega), List.append_assoc,
      toList_extract_append, hlen, ← hlen, List.take_left, NumberKind.decode_encode hs order hv henc]

theorem readsBack_bytes (length : Length) : ReadsBack (.bytes length) := by
  intro outer vis tail hs hvis P B hagree v hv b hb pre post hpost
  obtain ⟨bs, rfl⟩ := hv
  rw [write_bytes] at hb
  rw [scan_bytes, hagree.resolveClamped_eq hs]
  cases hn : length.resolveClamped B with
  | error e => rw [hn] at hb; cases hb
  | ok n =>
    rw [hn] at hb
    dsimp only [Value.asBytes?] at hb ⊢
    -- the build checked that the bytes have the resolved length
    by_cases hlen : bs.length = n
    · rw [if_neg (not_not.2 hlen)] at hb
      cases hb
      subst hlen
      rw [size_append_three, if_neg (by omega), List.append_assoc, toList_extract_append,
        List.take_left]
    · rw [if_pos hlen] at hb
      cases hb

theorem readsBack_literal (expected : Bytes) : ReadsBack (.literal expected) := by
  intro outer vis tail hs hvis P B hagree v hv b hb pre post hpost
  subst hv
  rw [write_literal] at hb
  dsimp only [Value.asBytes?] at hb
  rw [if_neg (not_not.2 rfl)] at hb
  cases hb
  rw [scan_literal, size_append_three, if_neg (by omega), List.append_assoc, toList_extract_append,
    List.take_left, if_neg (not_not.2 rfl)]

theorem readsBack_text (encoding : Encoding) (length : Option Length) :
    ReadsBack (.text encoding length) := by
  intro outer vis tail hs hvis P B hagree v hv b hb pre post hpost
  obtain ⟨str, rfl, hread⟩ := hv
  rw [write_text] at hb
  dsimp only [Value.text?] at hb
  cases hbytes : encoding.toBytes str with
  | error f => rw [hbytes] at hb; cases hb
  | ok bs =>
    rw [hbytes] at hb
    rw [hbytes] at hread
    -- the encoding reads the bytes back as the text
    have htext : encoding.toText bs = .ok str := hread
    rw [scan_text]
    cases length with
    | none =>
      -- without a length the text runs to the end, which is the end of its bytes
      cases hb
      rw [hpost hs, List.append_nil]
      have hsize : (pre ++ b).toArray.size - pre.length = b.length := by simp
      dsimp only
      rw [hsize, if_neg (lt_irrefl _), toList_extract_append, List.take_length, htext]
    | some l =>
      dsimp only at hb ⊢
      rw [hagree.resolveClamped_eq hs]
      cases hn : l.resolveClamped B with
      | error e => rw [hn] at hb; cases hb
      | ok n =>
        rw [hn] at hb
        dsimp only at hb ⊢
        by_cases hlen : bs.length = n
        · rw [if_neg (not_not.2 hlen)] at hb
          cases hb
          subst hlen
          rw [size_append_three, if_neg (by omega), List.append_assoc, toList_extract_append,
            List.take_left, htext]
        · rw [if_pos hlen] at hb
          cases hb

/-! ### Sized regions and windows -/

theorem readsBack_sized (inner : Schema) (total : Value → Option Int64) (ih : ReadsBack inner) :
    ReadsBack (.sized inner total) := by
  intro outer vis tail hs hvis P B hagree v hv b hb pre post hpost
  rw [write_sized] at hb
  rcases hinner : write inner v B with ⟨_ | _, built⟩
  · rw [hinner] at hb
    cases hb
  rw [hinner] at hb
  dsimp only at hb
  cases ht : declaredTotal total v with
  | error e => rw [ht] at hb; cases hb
  | ok t =>
    rw [ht] at hb
    dsimp only at hb
    by_cases hover : built.length > t
    · rw [if_pos hover] at hb
      cases hb
    rw [if_neg hover] at hb
    cases hb
    -- the inner schema reads its bytes back with the padding after them
    have hparse := ih hs hvis hagree hv hinner pre (List.replicate (t - built.length) 0 ++ post)
      (fun h => absurd h Bool.false_ne_true)
    rw [scan_sized, show pre ++ (built ++ List.replicate (t - built.length) 0) ++ post =
      pre ++ built ++ (List.replicate (t - built.length) 0 ++ post) by simp, hparse]
    simp only [andThen_ok, ht, size_append_three, List.length_append, List.length_replicate]
    rw [if_neg (by omega)]
    by_cases hpad : t - built.length > 0
    · rw [if_pos (by omega), if_neg (by omega)]
      congr 1
      omega
    · rw [if_neg (by omega)]
      congr 1
      omega

theorem readsBack_prefixed (length : Length) (inner : Schema) (ih : ReadsBack inner) :
    ReadsBack (.prefixed length inner) := by
  intro outer vis tail hs hvis P B hagree v hv b hb pre post hpost
  obtain ⟨hlength, hs⟩ := hs
  obtain ⟨hv, hstrict⟩ := hv
  rw [write_prefixed] at hb
  rcases hinner : write inner v B with ⟨_ | _, built⟩
  · rw [hinner] at hb
    cases hb
  rw [hinner] at hb hstrict
  obtain rfl : built = b := (Prod.mk.inj hb).2
  -- the window holds exactly the inner bytes, which the inner schema reads to their end
  have hparse := ih hs hvis hagree hv hinner [] [] (fun _ => rfl)
  simp only [List.nil_append, List.append_nil, List.length_nil, Nat.zero_add] at hparse
  have hwindow : (pre ++ built ++ post).toArray.extract pre.length (pre.length + built.length) =
      built.toArray := by
    rw [← Array.toList_inj, List.append_assoc, toList_extract_append, List.take_left]
  rw [scan_prefixed, hagree.resolveStrict_eq hlength, hstrict]
  dsimp only
  rw [size_append_three, if_neg (by omega), hwindow, hparse]

/-! ### Counted and greedy repetition -/

/-- The items of an array read back one after another, each in the scope of its index. -/
lemma itemsOutcome_of_written {item : Schema} (ih : ReadsBack item) {outer vis : List String}
    (hs : item.WellFormed outer (Scope.indexName :: vis) false)
    (hvis : ∀ x ∈ vis, x ∈ outer ∨ x = Scope.indexName) {P B : Scope} (hagree : P.Agree vis B)
    (post : Bytes) (items : List Value) (i : Nat) (pre b : Bytes)
    (hv : ∀ (j : Nat) (h : j < items.length),
      item.Canonical (B.push (Scope.indexLayer (i + j))) (items.get ⟨j, h⟩))
    (hb : BuildM.itemsEmitted (fun i x => write item x (B.push (Scope.indexLayer i))) i items =
      (.ok (), b)) :
    itemsOutcome (fun i => scan item (pre ++ b ++ post).toArray (P.push (Scope.indexLayer i)))
      i items.length pre.length = (.ok items, pre.length + b.length) := by
  induction items generalizing i pre b with
  | nil =>
    cases hb
    simp [itemsOutcome]
  | cons x xs ihx =>
    obtain ⟨_, b₁, b₂, h₁, h₂, rfl⟩ := BuildM.andThen_eq_ok.1 hb
    have hvis' : ∀ y ∈ Scope.indexName :: vis, y ∈ outer ∨ y = Scope.indexName := by
      intro y hy
      rcases List.mem_cons.1 hy with rfl | hmem
      · exact Or.inr rfl
      · exact hvis y hmem
    have hx := ih hs hvis' (hagree.push_index i) (by simpa using hv 0 (by simp)) h₁ pre (b₂ ++ post)
      (fun h => absurd h Bool.false_ne_true)
    have hxs := ihx (i + 1) (pre ++ b₁) b₂
      (fun j hj => by simpa [Nat.add_assoc, Nat.add_comm 1 j] using hv (j + 1) (by simp; omega)) h₂
    simp only [List.length_cons, itemsOutcome]
    rw [show pre ++ (b₁ ++ b₂) ++ post = pre ++ b₁ ++ (b₂ ++ post) by simp, hx, andThen_ok]
    rw [show pre ++ b₁ ++ (b₂ ++ post) = pre ++ b₁ ++ b₂ ++ post by simp, List.length_append] at *
    rw [hxs]
    simp [Nat.add_assoc]

theorem readsBack_array (item : Schema) (count : Length) (ih : ReadsBack item) :
    ReadsBack (.array item count) := by
  intro outer vis tail hs hvis P B hagree v hv b hb pre post hpost
  obtain ⟨hcount, hs⟩ := hs
  obtain ⟨items, rfl, hv⟩ := hv
  rw [write_array] at hb
  dsimp only [Value.items?] at hb
  rw [scan_array, hagree.resolveClamped_eq hcount]
  cases hn : count.resolveClamped B with
  | error e => rw [hn] at hb; cases hb
  | ok n =>
    rw [hn] at hb
    dsimp only at hb ⊢
    -- the build checked that there are as many items as the count says
    by_cases hlen : items.length = n
    · rw [if_neg (not_not.2 hlen)] at hb
      subst hlen
      rw [itemsOutcome_of_written ih hs hvis hagree post items 0 pre b
        (fun j hj => by simpa using hv j hj) hb, andThen_ok]
    · rw [if_pos hlen] at hb
      cases hb

/-- The items of a greedy range read back one after another to the end of the window: each
moves the cursor, since it wrote at least one byte, and nothing follows the last. -/
lemma greedyOutcome_of_written {item : Schema} (ih : ReadsBack item) {outer vis : List String}
    (hs : item.WellFormed outer vis false) (hvis : ∀ x ∈ vis, x ∈ outer ∨ x = Scope.indexName)
    {P B : Scope} (hagree : P.Agree vis B) (items : List Value) (i : Nat) (pre b : Bytes)
    (hv : ∀ x ∈ items, item.Canonical B x ∧ (write item x B).2 ≠ [])
    (hb : BuildM.itemsEmitted (fun _ x => write item x B) i items = (.ok (), b)) :
    greedyOutcome (scan item (pre ++ b).toArray P) (pre ++ b).toArray.size pre.length =
      (items, pre.length + b.length) := by
  induction items generalizing i pre b with
  | nil =>
    cases hb
    rw [greedyOutcome, if_neg (by simp)]
    simp
  | cons x xs ihx =>
    obtain ⟨_, b₁, b₂, h₁, h₂, rfl⟩ := BuildM.andThen_eq_ok.1 hb
    obtain ⟨hx, hne⟩ := hv x List.mem_cons_self
    dsimp only at h₁
    rw [h₁] at hne
    have hpos : 0 < b₁.length := List.length_pos_iff.2 hne
    have hread := ih hs hvis hagree hx h₁ pre b₂ (fun h => absurd h Bool.false_ne_true)
    have hrest := ihx (i + 1) (pre ++ b₁) b₂ (fun y hy => hv y (List.mem_cons_of_mem _ hy)) h₂
    rw [List.length_append] at hrest
    rw [greedyOutcome, if_pos (by simp; omega), ← List.append_assoc, hread]
    dsimp only
    rw [if_pos (by omega), hrest]
    simp [Nat.add_assoc]

theorem readsBack_greedy (item : Schema) (ih : ReadsBack item) : ReadsBack (.greedy item) := by
  intro outer vis tail hs hvis P B hagree v hv b hb pre post hpost
  obtain ⟨htail, hs⟩ := hs
  obtain ⟨items, rfl, hv⟩ := hv
  rw [write_greedy] at hb
  dsimp only [Value.items?] at hb
  -- a greedy range ends its window, so nothing follows its bytes
  rw [hpost htail, List.append_nil, scan_greedy,
    greedyOutcome_of_written ih hs hvis hagree items 0 pre b hv hb]

/-! ### Structs -/

/-- The record of the fields before a field, with the values of the record being built. -/
lemma agree_fields {vis done : List String} {P B : Scope} {r : Record} (hagree : P.Agree vis B)
    (hfresh : ∀ x ∈ vis, r.get? x = none) (hdone : ∀ n ∈ done, (r.get? n).isSome) :
    (P.push (Record.ofList (done.map fun n => (n, (r.get? n).getD .null)))).Agree (vis ++ done)
      (B.push r) := by
  refine hagree.push fun y hy => ?_
  rw [Record.get?_ofList_map]
  by_cases hmem : y ∈ done
  · -- a field parsed before has the value the record gives it
    have := hdone y hmem
    rw [if_pos hmem]
    refine ⟨?_, fun h => absurd h (Option.some_ne_none _)⟩
    cases h : r.get? y
    · rw [h] at this
      cases this
    · rfl
  · rw [if_neg hmem]
    have hvis : y ∈ vis := by simpa [hmem] using hy
    exact ⟨(hfresh y hvis).symm, fun _ => hvis⟩

/-- The fields of a struct read back one after another, from the record of the fields before
them, and give the record of all the fields. -/
lemma scanFields_of_written {outer vis : List String} {tail : Bool} {P B : Scope} {r : Record}
    (hagree : P.Agree vis B) (hvis : ∀ x ∈ vis, x ∈ outer ∨ x = Scope.indexName)
    (hfresh : ∀ x ∈ vis, r.get? x = none) (post : Bytes) (hpost : tail = true → post = [])
    (rest : List (String × Schema)) (done : List String) (pre b : Bytes)
    (ih : ∀ f ∈ rest, ReadsBack f.2) (hs : FieldsWellFormed outer (vis ++ done) tail rest)
    (hnames : ∀ n ∈ done ++ rest.map Prod.fst, n ∈ outer)
    (hdone : ∀ n ∈ done, (r.get? n).isSome) (hv : FieldsCanonical (B.push r) r rest)
    (hb : writeFields rest r (B.push r) = (.ok (), b)) :
    scanFields rest (pre ++ b ++ post).toArray P
        (Record.ofList (done.map fun n => (n, (r.get? n).getD .null))) pre.length =
      (.ok (.record (Record.ofList ((done ++ rest.map Prod.fst).map fun n =>
        (n, (r.get? n).getD .null)))), pre.length + b.length) := by
  induction rest generalizing done pre b with
  | nil =>
    rw [writeFields_nil] at hb
    cases hb
    simp [scanFields_nil]
  | cons f rest ihrest =>
    obtain ⟨n, s⟩ := f
    obtain ⟨hs₁, hs₂⟩ := hs
    obtain ⟨x, hx, hxv⟩ := hv.1
    rw [writeFields_cons, hx] at hb
    obtain ⟨_, b₁, b₂, h₁, h₂, rfl⟩ := BuildM.andThen_eq_ok.1 hb
    -- the field reads back in the scope of the fields before it
    have hpost₁ : (tail && rest.isEmpty) = true → b₂ ++ post = [] := by
      intro h
      simp only [Bool.and_eq_true, List.isEmpty_iff] at h
      obtain ⟨htail, rfl⟩ := h
      rw [writeFields_nil] at h₂
      cases h₂
      simp [hpost htail]
    have hvis₁ : ∀ y ∈ vis ++ done, y ∈ outer ∨ y = Scope.indexName := by
      intro y hy
      rcases List.mem_append.1 hy with h | h
      · exact hvis y h
      · exact Or.inl (hnames y (List.mem_append_left _ h))
    have hfield := ih (n, s) List.mem_cons_self hs₁ hvis₁ (agree_fields hagree hfresh hdone) hxv h₁
      pre (b₂ ++ post) hpost₁
    -- then the rest, with the field added to the record of the fields before
    have hinsert : Record.insert n x (Record.ofList (done.map fun n => (n, (r.get? n).getD .null))) =
        Record.ofList ((done ++ [n]).map fun n => (n, (r.get? n).getD .null)) := by
      rw [Record.ofList_map_append, List.foldl_cons, List.foldl_nil, hx, Option.getD_some]
    have hrest := ihrest (done ++ [n]) (pre ++ b₁) b₂ (fun g hg => ih g (List.mem_cons_of_mem _ hg))
      (by simpa using hs₂) (by simpa using hnames) (by
        intro m hm
        rcases List.mem_append.1 hm with h | h
        · exact hdone m h
        · rw [List.mem_singleton.1 h, hx]
          rfl) hv.2 h₂
    rw [scanFields_cons, show pre ++ (b₁ ++ b₂) ++ post = pre ++ b₁ ++ (b₂ ++ post) by simp, hfield,
      ParseM.andThen_ok, hinsert, show pre ++ b₁ ++ (b₂ ++ post) = pre ++ b₁ ++ b₂ ++ post by simp]
    rw [List.length_append] at hrest
    rw [hrest]
    simp [Nat.add_assoc]

theorem readsBack_struct (fields : List (String × Schema)) (ih : ∀ f ∈ fields, ReadsBack f.2) :
    ReadsBack (.struct fields) := by
  intro outer vis tail hs hvis P B hagree v hv b hb pre post hpost
  obtain ⟨-, hnames, hfields⟩ := hs
  obtain ⟨r, rfl, hr, hcanon⟩ := hv
  rw [write_struct] at hb
  dsimp only [Value.fields?] at hb
  -- the record has the struct's fields only, and none of them is a name expressions read
  have hfresh : ∀ x ∈ vis, Record.get? r x = none := by
    intro x hx
    rw [hr, Record.get?_ofList_map, if_neg]
    intro hmem
    obtain ⟨-, hidx, hout⟩ := hnames x hmem
    rcases hvis x hx with h | h
    · exact hout h
    · exact hidx h
  have hread := @scanFields_of_written (outer ++ fields.map Prod.fst) vis tail P B r hagree
    (fun x hx => (hvis x hx).imp (List.mem_append_left _) id) hfresh post hpost fields [] pre b ih
    (by simpa using hfields) (fun n hn => List.mem_append_right _ (by simpa using hn))
    (fun _ h => absurd h List.not_mem_nil) hcanon hb
  rw [scan_struct]
  rw [List.nil_append, ← hr] at hread
  exact hread

/-! ### Switches -/

/-- The case a key selects reads back, the same case in both directions. -/
lemma scanCase_of_written {outer vis : List String} {tail : Bool} {P B : Scope}
    (hagree : P.Agree vis B) (hvis : ∀ x ∈ vis, x ∈ outer ∨ x = Scope.indexName)
    (key : Option String) (v : Value) (post : Bytes) (hpost : tail = true → post = [])
    (default : Option Schema) (hd : ∀ d ∈ default, ReadsBack d)
    (hds : DefaultWellFormed outer vis tail default) (cases : List (String × Schema))
    (pre b : Bytes) (hc : ∀ c ∈ cases, ReadsBack c.2) (hcs : CasesWellFormed outer vis tail cases)
    (hv : CasesCanonical B key v cases)
    (hvd : (∀ c ∈ cases, key ≠ some c.1) → DefaultCanonical B v default)
    (hb : writeCase cases default key v B = (.ok (), b)) :
    scanCase cases default key (pre ++ b ++ post).toArray P pre.length =
      (.ok v, pre.length + b.length) := by
  induction cases with
  | nil =>
    rw [writeCase_nil] at hb
    rw [scanCase_nil]
    rcases default with _ | d
    · cases hb
    · exact hd d rfl hds hvis hagree (hvd fun _ h => absurd h List.not_mem_nil) hb pre post hpost
  | cons c rest ihrest =>
    obtain ⟨k, s⟩ := c
    obtain ⟨hcase, hrest⟩ := hv
    rw [writeCase_cons] at hb
    rw [scanCase_cons]
    by_cases hk : key = some k
    · rw [if_pos hk] at hb ⊢
      exact hc (k, s) List.mem_cons_self ((fieldWellFormed_iff _).1 hcs.1) hvis hagree (hcase hk)
        hb pre post hpost
    · rw [if_neg hk] at hb ⊢
      exact ihrest (fun c' hc' => hc c' (List.mem_cons_of_mem _ hc')) hcs.2 (hrest hk)
        (fun hall => hvd fun c' hc' => (List.mem_cons.1 hc').elim (fun h => h ▸ hk) (hall c')) hb

theorem readsBack_switch (on : SwitchOn) (cases : List (String × Schema))
    (default : Option Schema) (hc : ∀ c ∈ cases, ReadsBack c.2) (hd : ∀ d ∈ default, ReadsBack d) :
    ReadsBack (.switch on cases default) := by
  intro outer vis tail hs hvis P B hagree v hv b hb pre post hpost
  obtain ⟨hon, hcases, hdefault⟩ := hs
  -- the fields the build shows answer none of the names the switch's expressions may read
  have hfresh : ∀ x ∈ vis, (v.fields?.getD []).get? x = none := by
    intro x hx
    cases hf : v.fields? with
    | none => rfl
    | some r =>
      rcases canonical_of_cases hv.1 hv.2 with ⟨c, hmem, hcv⟩ | ⟨d, hmem, hdv⟩
      · exact Canonical.get?_eq_none c.2 (hcases.of_mem hmem) hcv hf (hvis x hx)
      · cases hmem
        exact Canonical.get?_eq_none d hdefault hdv hf (hvis x hx)
  have hagree' := hagree.push_right hfresh
  rw [write_switch] at hb
  rw [scan_switch, hagree'.key?_eq hon]
  exact scanCase_of_written hagree' hvis _ v post hpost default hd hdefault cases pre b hc hcases
    hv.1 hv.2 hb

/-! ### Every schema -/

/-- **Every node reads back.** -/
theorem readsBack (s : Schema) : ReadsBack s := by
  induction s using Schema.induction with
  | number kind order => exact readsBack_number kind order
  | bytes length => exact readsBack_bytes length
  | literal expected => exact readsBack_literal expected
  | text encoding length => exact readsBack_text encoding length
  | struct fields ih => exact readsBack_struct fields ih
  | array item count ih => exact readsBack_array item count ih
  | greedy item ih => exact readsBack_greedy item ih
  | switch on cases default hc hd => exact readsBack_switch on cases default hc hd
  | sized inner total ih => exact readsBack_sized inner total ih
  | prefixed length inner ih => exact readsBack_prefixed length inner ih

/-- **Building, then parsing, gives the value back.** For a well-formed schema and a value
canonical for it, if the build succeeds then parsing the bytes it wrote gives the value back
and consumes all of them.

**Proof sketch.** `readsBack` at the root: nothing before or after the bytes, and the parse and
the build both start in the root scope. -/
theorem parse_build {s : Schema} (hs : s.WellFormed [] [] true) {v : Value}
    (hv : s.Canonical Scope.root v) (hb : (s.build v).1 = .ok ()) :
    (s.parse (s.build v).2.output.toList).1 = .ok v ∧
      (s.parse (s.build v).2.output.toList).2.offset = (s.build v).2.output.size := by
  have hwrite : write s v Scope.root = (.ok (), (s.build v).2.output.toList) := by
    rw [← build_eq_write, hb]
  have hroot : Scope.root.Agree [] Scope.root := fun _ h => absurd h List.not_mem_nil
  have hread := readsBack s hs (fun _ h => absurd h List.not_mem_nil) hroot hv hwrite [] [] (fun _ => rfl)
  have hparse := parse_eq_scan s (s.build v).2.output.toList
  simp only [List.nil_append, List.append_nil, List.length_nil, Nat.zero_add] at hread
  rw [hread, Array.length_toList] at hparse
  exact ⟨congrArg Prod.fst hparse, congrArg Prod.snd hparse⟩

/-- A tagged message: a kind byte, a length, and a body of that length whose layout the kind
selects. -/
def taggedMessage : Schema :=
  .struct [("kind", .number .uint8 .big), ("len", .number .uint16 .little),
    ("body", .prefixed (.field "len")
      (.switch (.field "kind") [("1", .struct [("x", .number .int8 .big)])] none))]

/-- A message of kind 1 whose body is one signed byte. -/
def taggedMessageValue : Value :=
  .record [("body", .record [("x", .signed (-3))]), ("kind", .unsigned 1), ("len", .unsigned 1)]

theorem parse_build_taggedMessage :
    taggedMessage.WellFormed [] [] true ∧ taggedMessage.Canonical Scope.root taggedMessageValue ∧
      (taggedMessage.build taggedMessageValue).1 = .ok () ∧
      (taggedMessage.parse (taggedMessage.build taggedMessageValue).2.output.toList).1 =
          .ok taggedMessageValue ∧
        (taggedMessage.parse (taggedMessage.build taggedMessageValue).2.output.toList).2.offset =
          (taggedMessage.build taggedMessageValue).2.output.size := by
  have hs : taggedMessage.WellFormed [] [] true := by
    simp [taggedMessage, WellFormed, FieldsWellFormed, FieldWellFormed, CasesWellFormed,
      DefaultWellFormed, Length.ReadsFrom, SwitchOn.ReadsFrom, NumberKind.isFloat, Scope.indexName]
  have hv : taggedMessage.Canonical Scope.root taggedMessageValue := by
    simp [taggedMessage, taggedMessageValue, Canonical, FieldsCanonical, FieldCanonical,
      CasesCanonical, CaseCanonical, DefaultCanonical, Record.get?_cons, Record.ofList,
      Record.insert, Value.fields?, SwitchOn.key?, Scope.get?_push, Value.key?,
      Length.resolveStrict, Length.resolve, Value.toInt64?, Value.exactInt?, write_switch,
      writeCase_cons, write_struct, writeFields_cons, writeFields_nil, write_number,
      NumberKind.encode, NumberKind.bitsOf?, NumberKind.width, NumberKind.isSigned,
      show Nat.repr 1 = "1" by decide, show ¬ ("len" < "kind") by decide,
      show "body" < "kind" by decide]
    rfl
  have hb : (taggedMessage.build taggedMessageValue).1 = .ok () := by
    have h := congrArg Prod.fst (build_eq_write taggedMessage taggedMessageValue)
    dsimp only at h
    rw [h]
    simp [taggedMessage, taggedMessageValue, write_struct, writeFields_cons, writeFields_nil,
      write_number, write_prefixed, write_switch, writeCase_cons, Value.fields?, Record.get?_cons,
      NumberKind.encode, NumberKind.bitsOf?, NumberKind.width, NumberKind.isSigned,
      Value.toUInt64?_unsigned, Value.toInt64?_signed, SwitchOn.key?, Scope.get?_push,
      Value.key?, show Nat.repr 1 = "1" by decide]
  exact ⟨hs, hv, hb, parse_build hs hv hb⟩

end Schema

end ByteLayout
