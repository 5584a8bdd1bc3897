import Listing.Proofs.JsonText
import Listing.Request

namespace Listing

namespace Decoder

variable {σ : Type}

theorem mismatch_ne_ok {α : Type} {expected : String} {x : Node} {a : α} :
    mismatch expected x ≠ .ok a := by
  rw [mismatch]
  split <;> nofun

def Slot.Keeps (P : σ → Prop) (s : Slot σ) : Prop := ∀ x f r, s.read x = .ok f → P r → P (f r)

theorem Slot.keeps_optional {α : Type} {P : σ → Prop} (key : String) (d : Decoder α)
    {set : α → σ → σ} (h : ∀ v r, P r → P (set v r)) : (Slot.optional key d set).Keeps P := by
  intro x f r hf hr
  simp only [Slot.optional] at hf
  cases hd : d x with
  | error e =>
    rw [hd] at hf
    cases hf
  | ok v =>
    rw [hd] at hf
    cases hf
    exact h v r hr

theorem readEntries_keeps {P : σ → Prop} {slots : List (Slot σ)} (hs : ∀ s ∈ slots, s.Keeps P)
    {entries : List (Option String × Node)} {seen seen' : List String} {r r' : σ}
    (h : readEntries slots seen r entries = .ok (seen', r')) (hr : P r) : P r' := by
  induction entries generalizing seen r with
  | nil =>
    cases h
    exact hr
  | cons e es ih =>
    obtain ⟨key, x⟩ := e
    cases key with
    | none => cases h
    | some key =>
      rw [readEntries] at h
      split at h
      · exact ih h hr
      · rename_i s hfind
        split at h
        · cases h
        · cases hx : s.read x with
          | error e =>
            rw [hx] at h
            cases h
          | ok f =>
            rw [hx] at h
            exact ih h (hs s (List.mem_of_find?_eq_some hfind) x f r hx hr)

theorem readElements_keeps {P : σ → Prop} {slots : List (Slot σ)} (hs : ∀ s ∈ slots, s.Keeps P)
    {items : List Node} {expected : String} {index : Nat} {r r' : σ}
    (h : readElements expected index r slots items = .ok r') (hr : P r) : P r' := by
  induction slots generalizing index r items with
  | nil =>
    cases items with
    | nil =>
      cases h
      exact hr
    | cons x xs => cases h
  | cons s slots ih =>
    have hrest := fun t ht => hs t (List.mem_cons_of_mem _ ht)
    cases items with
    | nil =>
      rw [readElements] at h
      split at h
      · cases h
      · exact ih hrest h hr
    | cons x xs =>
      rw [readElements] at h
      cases hx : s.read x with
      | error e =>
        rw [hx] at h
        cases h
      | ok f =>
        rw [hx] at h
        exact ih hrest h (hs s List.mem_cons_self x f r hx hr)

theorem record_keeps {P : σ → Prop} {slots : List (Slot σ)} (hs : ∀ s ∈ slots, s.Keeps P)
    {levels : Nat} {name : String} {blank r : σ} {x : Node}
    (h : record levels name slots blank x = .ok r) (hblank : P blank) : P r := by
  cases x with
  | object entries =>
    simp only [record] at h
    split at h
    · cases h
    · cases he : readEntries slots [] blank entries with
      | error e =>
        rw [he] at h
        cases h
      | ok p =>
        obtain ⟨seen, r'⟩ := p
        rw [he] at h
        have hr := readEntries_keeps hs he hblank
        simp only [bind, Except.bind] at h
        split at h
        · cases h
        · cases h
          exact hr
  | array items =>
    simp only [record] at h
    split at h
    · cases h
    · exact readElements_keeps hs h hblank
  | null => cases h
  | bool b => cases h
  | number v => exact (mismatch_ne_ok h).elim
  | string v => exact (mismatch_ne_ok h).elim

theorem readEntries_optional {α : Type} {slots : List (Slot σ)} {key : String} {keys : List String}
    {d : Decoder α} {set : α → σ → σ} (hs : slots.find? (fun s => s.accepts key) =
      some { Slot.optional key d set with otherKeys := keys }) {x : Node} {a : α}
    (hx : d x = .ok a) (r : σ) (es : List (Option String × Node)) {seen : List String}
    (hseen : seen.contains key = false) : readEntries slots seen r ((some key, x) :: es) =
      readEntries slots (key :: seen) (set a r) es := by
  rw [readEntries, hs]
  simp only [Slot.optional, hseen, Bool.false_eq_true, if_false, hx]
  rfl

theorem readEntries_skip {slots : List (Slot σ)} {key : String}
    (hs : slots.find? (fun s => s.accepts key) = none) (seen : List String) (x : Node) (r : σ)
    (es : List (Option String × Node)) :
    readEntries slots seen r ((some key, x) :: es) = readEntries slots seen r es := by
  rw [readEntries, hs]

theorem readEntries_without {slots : List (Slot σ)} {key : String}
    (hkey : slots.find? (fun s => s.accepts key) = none) (seen : List String) (r : σ)
    (entries : List (Option String × Node)) :
    readEntries slots seen r (entries.filter fun e => e.1 != some key) =
      readEntries slots seen r entries := by
  induction entries generalizing seen r with
  | nil => rfl
  | cons e es ih =>
    obtain ⟨k, x⟩ := e
    cases k with
    | none => rfl
    | some k =>
      by_cases hk : k = key
      · subst hk
        rw [List.filter_cons_of_neg (by simp), ih, readEntries_skip hkey]
      · rw [List.filter_cons_of_pos (by simpa using hk), readEntries, readEntries]
        split
        · exact ih seen r
        · split
          · rfl
          · rename_i s _ _
            cases s.read x with
            | error e => rfl
            | ok f => exact ih _ _

end Decoder

def Node.without (key : String) : Node → Node
  | .object entries => .object (entries.filter fun e => e.1 != some key)
  | x => x

theorem Decoder.record_without {σ : Type} {slots : List (Slot σ)} {key : String}
    (hkey : slots.find? (fun s => s.accepts key) = none) (levels : Nat) (name : String) (blank : σ)
    (x : Node) :
    record levels name slots blank (x.without key) = record levels name slots blank x := by
  cases x with
  | object entries => simp only [Node.without, record, readEntries_without hkey]
  | null => rfl
  | bool b => rfl
  | number v => rfl
  | string v => rfl
  | array items => rfl

namespace Request

theorem decode_localFilters {x : Node} {r : Request} (h : decode x = .ok r) :
    r.localFilters = [] := by
  have hslots : ∀ s ∈ slots, s.Keeps fun r : Request => r.localFilters = [] := by
    simp only [slots, List.forall_mem_cons]
    exact ⟨Decoder.Slot.keeps_optional _ _ fun _ _ h => h,
      Decoder.Slot.keeps_optional _ _ fun _ _ h => h,
      Decoder.Slot.keeps_optional _ _ fun _ _ h => h,
      Decoder.Slot.keeps_optional _ _ fun _ _ h => h,
      Decoder.Slot.keeps_optional "sorts" _ fun _ _ h => h, List.forall_mem_nil _⟩
  exact Decoder.record_keeps hslots h rfl

theorem decode_without (x : Node) : decode (x.without "local_filters") = decode x :=
  Decoder.record_without (by decide) _ _ _ x

theorem ofText_ok {s : String} {r : Request} :
    ofText s = .ok r ↔ ∃ x, Node.ofChars? s.toList = some x ∧ decode x = .ok r := by
  rw [ofText, decodeText]
  cases hx : Node.ofChars? s.toList with
  | none => simp
  | some x =>
    simp only [Option.some.injEq, exists_eq_left']
    rw [decodeNode]
    cases hd : decode x with
    | ok a => simp
    | error e =>
      cases e <;> simp <;> split <;> simp

theorem toJson_isExact (r : Request) : r.toJson.IsExact := by
  have hlimit := r.limit.toNat_lt
  have hpage := r.page.toNat_lt
  have htexts : ∀ ts : List String, Json.ItemsExact (ts.map .string) := by
    intro ts
    induction ts with
    | nil => trivial
    | cons t ts ih => exact ⟨trivial, ih⟩
  have hpow : Int.pow 2 63 = 9223372036854775808 ∧ Int.pow 2 64 = 18446744073709551616 := by decide
  simp only [toJson, Json.IsExact, Json.EntriesExact, Json.nat, htexts, and_true, hpow.1, hpow.2]
  omega

theorem decode_texts (ts : List String) :
    Decoder.sequence (Json.maxDepth - 1) Decoder.string (.ofJson (.array (ts.map .string))) =
      .ok ts := by
  have hitems : (Node.ofItems (ts.map .string)).mapM Decoder.string = .ok ts := by
    induction ts with
    | nil => rfl
    | cons t ts ih =>
      rw [List.map_cons, Node.ofItems, List.mapM_cons, ih]
      rfl
  rw [Node.ofJson, Decoder.sequence, hitems]
  rfl

theorem decode_unsigned (n : UInt64) : Decoder.unsigned (.ofJson (.nat n.toNat)) = .ok n := by
  have hn := n.toNat_lt
  have hpow : Int.pow 2 64 = 18446744073709551616 := by decide
  simp only [Json.nat, Node.ofJson, Decoder.unsigned, hpow]
  rw [if_pos (by omega), Int.toNat_natCast, UInt64.ofNat_toNat]

theorem decode_toJson (r : Request) :
    decode (.ofJson r.toJson) = .ok { r with localFilters := [] } := by
  have hlimit := decode_unsigned r.limit
  have hpage := decode_unsigned r.page
  have hfilters := decode_texts r.filters
  have hsorts := decode_texts r.sorts
  have hsearch : Decoder.string (.ofJson (.string r.search)) = .ok r.search := rfl
  have hnode : Node.ofJson r.toJson = .object
      [(some "limit", .ofJson (.nat r.limit.toNat)), (some "page", .ofJson (.nat r.page.toNat)),
        (some "search", .ofJson (.string r.search)),
        (some "filters", .ofJson (.array (r.filters.map .string))),
        (some "local_filters", .ofJson (.array (r.localFilters.map .string))),
        (some "sorts", .ofJson (.array (r.sorts.map .string)))] := by
    simp only [toJson, Node.ofJson.eq_6, Node.ofEntries]
  have slotLimit : slots.find? (fun s => s.accepts "limit") =
    some (.optional "limit" .unsigned fun v r => { r with limit := v }) := rfl
  have slotPage : slots.find? (fun s => s.accepts "page") =
    some (.optional "page" .unsigned fun v r => { r with page := v }) := rfl
  have slotSearch : slots.find? (fun s => s.accepts "search") =
    some (.optional "search" .string fun v r => { r with search := v }) := rfl
  have slotFilters : slots.find? (fun s => s.accepts "filters") =
    some (.optional "filters" (Decoder.sequence (Json.maxDepth - 1) .string)
      fun v r => { r with filters := v }) := rfl
  have slotLocal : slots.find? (fun s => s.accepts "local_filters") = none := rfl
  have slotSorts : slots.find? (fun s => s.accepts "sorts") =
    some { Decoder.Slot.optional "sorts" (Decoder.sequence (Json.maxDepth - 1) .string)
      fun (v : List String) (r : Request) => { r with sorts := v } with otherKeys := ["sort"] } :=
    rfl
  rw [hnode, decode, Decoder.record, if_neg (by decide),
    Decoder.readEntries_optional slotLimit hlimit, Decoder.readEntries_optional slotPage hpage,
    Decoder.readEntries_optional slotSearch hsearch,
    Decoder.readEntries_optional slotFilters hfilters, Decoder.readEntries_skip slotLocal,
    Decoder.readEntries_optional slotSorts hsorts]
  all_goals rfl

theorem ofText_toJson (r : Request) : ofText r.toJson.text = .ok { r with localFilters := [] } :=
  decodeText_text decode r.toJson_isExact r.decode_toJson

end Request
end Listing
