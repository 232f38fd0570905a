import Branch.Lib.Cbor

/-!
Values whose texts are any bytes, as a writer takes them that does not look into its texts. The
bytes of a value still say which value it is, so that no reader makes text of what is not.
-/

namespace Branch.Lib

inductive RawCbor
  | bool (b : Bool)
  | uint (n : Nat)
  | text (s : List UInt8)
  | bytes (data : List UInt8)
  | array (values : List RawCbor)
  | map (entries : List (List UInt8 × RawCbor))

namespace RawCbor

open Cbor (head initial)

/-- Induction over the values inside of arrays and maps. -/
@[elab_as_elim, induction_eliminator]
theorem induct {motive : RawCbor → Prop} (bool : ∀ b, motive (.bool b))
    (uint : ∀ n, motive (.uint n)) (text : ∀ s, motive (.text s))
    (bytes : ∀ data, motive (.bytes data))
    (array : ∀ values, (∀ v ∈ values, motive v) → motive (.array values))
    (map : ∀ entries : List (List UInt8 × RawCbor), (∀ entry ∈ entries, motive entry.2) →
      motive (.map entries)) : ∀ v, motive v
  | .bool b => bool b
  | .uint n => uint n
  | .text s => text s
  | .bytes data => bytes data
  | .array values =>
    array values fun v _ => induct bool uint text bytes array map v
  | .map entries =>
    map entries fun entry _ => induct bool uint text bytes array map entry.2
termination_by v => sizeOf v
decreasing_by
  · have := List.sizeOf_lt_of_mem ‹v ∈ values›
    simp only [RawCbor.array.sizeOf_spec]
    omega
  · have := List.sizeOf_lt_of_mem ‹entry ∈ entries›
    obtain ⟨key, v⟩ := entry
    simp only [RawCbor.map.sizeOf_spec, Prod.mk.sizeOf_spec] at this ⊢
    omega

section Encoding

def encodeText (s : List UInt8) : List UInt8 := head 3 s.length ++ s

mutual

def encode : RawCbor → List UInt8
  | .bool b => [initial 7 (if b then 21 else 20)]
  | .uint n => head 0 n
  | .text s => encodeText s
  | .bytes data => head 2 data.length ++ data
  | .array values => head 4 values.length ++ encodeItems values
  | .map entries => head 5 entries.length ++ encodeEntries entries

def encodeItems : List RawCbor → List UInt8
  | [] => []
  | v :: values => encode v ++ encodeItems values

def encodeEntries : List (List UInt8 × RawCbor) → List UInt8
  | [] => []
  | (key, v) :: entries => encodeText key ++ encode v ++ encodeEntries entries

end

mutual

def texts : RawCbor → List (List UInt8)
  | .text s => [s]
  | .array values => textsItems values
  | .map entries => textsEntries entries
  | _ => []

def textsItems : List RawCbor → List (List UInt8)
  | [] => []
  | v :: values => texts v ++ textsItems values

def textsEntries : List (List UInt8 × RawCbor) → List (List UInt8)
  | [] => []
  | (key, v) :: entries => key :: (texts v ++ textsEntries entries)

end

theorem mem_textsItems {values : List RawCbor} {s : List UInt8} :
    s ∈ textsItems values ↔ ∃ v ∈ values, s ∈ texts v := by
  induction values with
  | nil => simp [textsItems]
  | cons v values ih => simp [textsItems, ih]

theorem mem_textsEntries {entries : List (List UInt8 × RawCbor)} {s : List UInt8} :
    s ∈ textsEntries entries ↔ ∃ entry ∈ entries, s = entry.1 ∨ s ∈ texts entry.2 := by
  induction entries with
  | nil => simp [textsEntries]
  | cons entry entries ih =>
    obtain ⟨key, v⟩ := entry
    simp [textsEntries, ih, or_assoc]

theorem encodeEntries_eq_flatMap (entries : List (List UInt8 × RawCbor)) :
    encodeEntries entries =
      entries.flatMap fun entry => encodeText entry.1 ++ encode entry.2 := by
  induction entries with
  | nil => rfl
  | cons entry entries ih => rw [encodeEntries, ih, List.flatMap_cons]

end Encoding

section Injective

variable {rest rest' : List UInt8}

theorem head_append_inj {major major' n n' : Nat} (hmajor : major < 8)
    (hmajor' : major' < 8) (hn : n < 2 ^ 64) (hn' : n' < 2 ^ 64)
    (h : head major n ++ rest = head major' n' ++ rest') :
    major = major' ∧ n = n' ∧ rest = rest' := by
  obtain ⟨additional, hadditional, tail, hhead, hread⟩ := Cbor.readArgument_head hn
  obtain ⟨additional', hadditional', tail', hhead', hread'⟩ := Cbor.readArgument_head hn'
  rw [hhead, hhead', List.cons_append, List.cons_append, List.cons.injEq] at h
  obtain ⟨hinitial, htail⟩ := h
  have hfields := Cbor.major_initial hmajor hadditional
  have hfields' := Cbor.major_initial hmajor' hadditional'
  rw [hinitial, hfields'.1, hfields'.2] at hfields
  obtain ⟨rfl, rfl⟩ := hfields
  have heq := hread rest
  rw [htail, hread' rest'] at heq
  obtain ⟨rfl, rfl⟩ := Prod.mk.inj (Option.some.inj heq)
  exact ⟨rfl, rfl, rfl⟩

/-- The values with lengths and integers that a head can hold, and no key twice in a map. -/
inductive Fits : RawCbor → Prop
  | bool (b : Bool) : Fits (.bool b)
  | uint {n : Nat} (hn : n < 2 ^ 64) : Fits (.uint n)
  | text {s : List UInt8} (hs : s.length < 2 ^ 64) : Fits (.text s)
  | bytes {data : List UInt8} (hdata : data.length < 2 ^ 64) : Fits (.bytes data)
  | array {values : List RawCbor} (hlength : values.length < 2 ^ 64)
      (hvalues : ∀ v ∈ values, Fits v) : Fits (.array values)
  | map {entries : List (List UInt8 × RawCbor)} (hlength : entries.length < 2 ^ 64)
      (hkeys : ∀ entry ∈ entries, entry.1.length < 2 ^ 64)
      (hdistinct : (entries.map Prod.fst).Nodup)
      (hvalues : ∀ entry ∈ entries, Fits entry.2) : Fits (.map entries)

def major : RawCbor → Nat
  | .bool _ => 7
  | .uint _ => 0
  | .text _ => 3
  | .bytes _ => 2
  | .array _ => 4
  | .map _ => 5

def argument : RawCbor → Nat
  | .bool b => if b then 21 else 20
  | .uint n => n
  | .text s => s.length
  | .bytes data => data.length
  | .array values => values.length
  | .map entries => entries.length

def body : RawCbor → List UInt8
  | .bool _ => []
  | .uint _ => []
  | .text s => s
  | .bytes data => data
  | .array values => encodeItems values
  | .map entries => encodeEntries entries

theorem encode_eq (v : RawCbor) : encode v = head v.major v.argument ++ v.body := by
  cases v with
  | bool b => cases b <;> rfl
  | uint n => simp [encode, major, argument, body]
  | _ => rfl

theorem major_lt (v : RawCbor) : v.major < 8 := by
  cases v <;> simp [major]

theorem Fits.argument_lt {v : RawCbor} (h : Fits v) : v.argument < 2 ^ 64 := by
  cases h with
  | bool b => cases b <;> simp [argument]
  | uint hn => exact hn
  | text hs => exact hs
  | bytes hdata => exact hdata
  | array hlength => exact hlength
  | map hlength => exact hlength

theorem encodeText_append_inj {s t rest rest' : List UInt8} (hs : s.length < 2 ^ 64)
    (ht : t.length < 2 ^ 64) (h : encodeText s ++ rest = encodeText t ++ rest') :
    s = t ∧ rest = rest' := by
  rw [encodeText, encodeText, List.append_assoc, List.append_assoc] at h
  obtain ⟨_, hlength, hbody⟩ := head_append_inj (by decide) (by decide) hs ht h
  exact List.append_inj hbody hlength

theorem encodeItems_append_inj {values values' : List RawCbor}
    (h : ∀ v ∈ values, ∀ w, Fits w → ∀ rest rest',
      encode v ++ rest = encode w ++ rest' → v = w ∧ rest = rest')
    (hvalues : ∀ v ∈ values', Fits v) (hlength : values.length = values'.length)
    (heq : encodeItems values ++ rest = encodeItems values' ++ rest') :
    values = values' ∧ rest = rest' := by
  induction values generalizing values' with
  | nil =>
    cases values' with
    | nil => exact ⟨rfl, heq⟩
    | cons w values' => cases hlength
  | cons v values ih =>
    cases values' with
    | nil => cases hlength
    | cons w values' =>
      rw [encodeItems, encodeItems, List.append_assoc, List.append_assoc] at heq
      obtain ⟨rfl, htail⟩ := h v List.mem_cons_self w (hvalues w List.mem_cons_self) _ _ heq
      obtain ⟨rfl, hrest⟩ := ih (fun v hv => h v (List.mem_cons_of_mem _ hv))
        (fun v hv => hvalues v (List.mem_cons_of_mem _ hv)) (Nat.succ.inj hlength) htail
      exact ⟨rfl, hrest⟩

theorem encodeEntries_append_inj {entries entries' : List (List UInt8 × RawCbor)}
    (h : ∀ entry ∈ entries, ∀ w, Fits w → ∀ rest rest',
      encode entry.2 ++ rest = encode w ++ rest' → entry.2 = w ∧ rest = rest')
    (hkeys : ∀ entry ∈ entries, entry.1.length < 2 ^ 64)
    (hkeys' : ∀ entry ∈ entries', entry.1.length < 2 ^ 64)
    (hvalues : ∀ entry ∈ entries', Fits entry.2) (hlength : entries.length = entries'.length)
    (heq : encodeEntries entries ++ rest = encodeEntries entries' ++ rest') :
    entries = entries' ∧ rest = rest' := by
  induction entries generalizing entries' with
  | nil =>
    cases entries' with
    | nil => exact ⟨rfl, heq⟩
    | cons entry' entries' => cases hlength
  | cons entry entries ih =>
    cases entries' with
    | nil => cases hlength
    | cons entry' entries' =>
      obtain ⟨key, v⟩ := entry
      obtain ⟨key', w⟩ := entry'
      simp only [encodeEntries, List.append_assoc] at heq
      obtain ⟨rfl, hvalue⟩ := encodeText_append_inj (hkeys _ List.mem_cons_self)
        (hkeys' _ List.mem_cons_self) heq
      obtain ⟨rfl, htail⟩ :=
        h (key, v) List.mem_cons_self w (hvalues _ List.mem_cons_self) _ _ hvalue
      obtain ⟨rfl, hrest⟩ := ih (fun entry hentry => h entry (List.mem_cons_of_mem _ hentry))
        (fun entry hentry => hkeys entry (List.mem_cons_of_mem _ hentry))
        (fun entry hentry => hkeys' entry (List.mem_cons_of_mem _ hentry))
        (fun entry hentry => hvalues entry (List.mem_cons_of_mem _ hentry))
        (Nat.succ.inj hlength) htail
      exact ⟨rfl, hrest⟩

theorem head_body_of_encode {v w : RawCbor} (hv : Fits v) (hw : Fits w)
    (h : encode v ++ rest = encode w ++ rest') :
    v.major = w.major ∧ v.argument = w.argument ∧ v.body ++ rest = w.body ++ rest' := by
  rw [encode_eq, encode_eq, List.append_assoc, List.append_assoc] at h
  exact head_append_inj (major_lt v) (major_lt w) hv.argument_lt hw.argument_lt h

theorem encode_append_inj {v w : RawCbor} (hv : Fits v) (hw : Fits w)
    (h : encode v ++ rest = encode w ++ rest') : v = w ∧ rest = rest' := by
  induction v generalizing w rest rest' with
  | bool b =>
    obtain ⟨hmajor, hargument, hbody⟩ := head_body_of_encode hv hw h
    cases w <;> cases hmajor
    rename_i b'
    cases b <;> cases b' <;> first | exact ⟨rfl, hbody⟩ | cases hargument
  | uint n =>
    obtain ⟨hmajor, hargument, hbody⟩ := head_body_of_encode hv hw h
    cases w <;> cases hmajor
    exact ⟨congrArg uint hargument, hbody⟩
  | text s =>
    obtain ⟨hmajor, hargument, hbody⟩ := head_body_of_encode hv hw h
    cases w <;> cases hmajor
    obtain ⟨rfl, hrest⟩ := List.append_inj hbody hargument
    exact ⟨rfl, hrest⟩
  | bytes data =>
    obtain ⟨hmajor, hargument, hbody⟩ := head_body_of_encode hv hw h
    cases w <;> cases hmajor
    obtain ⟨rfl, hrest⟩ := List.append_inj hbody hargument
    exact ⟨rfl, hrest⟩
  | array values ih =>
    obtain ⟨hmajor, hargument, hbody⟩ := head_body_of_encode hv hw h
    cases w <;> cases hmajor
    cases hv with
    | array _ hvalues =>
      cases hw with
      | array _ hvalues' =>
        obtain ⟨rfl, hrest⟩ := encodeItems_append_inj
          (fun v hmem w hw rest rest' heq => ih v hmem (hvalues v hmem) hw heq)
          hvalues' hargument hbody
        exact ⟨rfl, hrest⟩
  | map entries ih =>
    obtain ⟨hmajor, hargument, hbody⟩ := head_body_of_encode hv hw h
    cases w <;> cases hmajor
    cases hv with
    | map _ hkeys _ hvalues =>
      cases hw with
      | map _ hkeys' _ hvalues' =>
        obtain ⟨rfl, hrest⟩ := encodeEntries_append_inj
          (fun entry hmem w hw rest rest' heq =>
            ih entry hmem (hvalues entry hmem) hw heq)
          hkeys hkeys' hvalues' hargument hbody
        exact ⟨rfl, hrest⟩

theorem encode_inj {v w : RawCbor} (hv : Fits v) (hw : Fits w) (h : encode v = encode w) :
    v = w :=
  (encode_append_inj hv hw (congrArg (· ++ []) h)).1

end Injective

section Writing

variable {ε : Type} (duplicate : ε)

mutual

/-- A writer that refuses keys that occur twice and sorts the entries by their keys. -/
def write : RawCbor → Except ε (List UInt8)
  | .bool b => .ok [initial 7 (if b then 21 else 20)]
  | .uint n => .ok (head 0 n)
  | .text s => .ok (encodeText s)
  | .bytes data => .ok (head 2 data.length ++ data)
  | .array values => do
    let chunks ← writeItems values
    return head 4 values.length ++ chunks
  | .map entries => do
    let encoded ← writeEntries [] entries
    return head 5 encoded.length ++
      (Cbor.sortEncoded encoded).flatMap fun entry => entry.1 ++ entry.2

def writeItems : List RawCbor → Except ε (List UInt8)
  | [] => .ok []
  | v :: values => do
    let encoded ← write v
    let chunks ← writeItems values
    return encoded ++ chunks

/-- The entries behind those with the keys of `seen`, not yet in order. -/
def writeEntries (seen : List (List UInt8)) :
    List (List UInt8 × RawCbor) → Except ε (List (List UInt8 × List UInt8))
  | [] => .ok []
  | (key, v) :: entries => do
    throwIf (key ∈ seen) duplicate
    let value ← write v
    let encoded ← writeEntries (key :: seen) entries
    return (encodeText key, value) :: encoded

end

def inKeyOrder (entries : List (List UInt8 × RawCbor)) : List (List UInt8 × RawCbor) :=
  entries.insertionSort fun left right => encodeText left.1 ≤ encodeText right.1

mutual

/-- The value with the entries of each of its maps in the order of their keys. -/
def sortKeys : RawCbor → RawCbor
  | .array values => .array (sortKeysItems values)
  | .map entries => .map (inKeyOrder (sortKeysEntries entries))
  | .bool b => .bool b
  | .uint n => .uint n
  | .text s => .text s
  | .bytes data => .bytes data

def sortKeysItems : List RawCbor → List RawCbor
  | [] => []
  | v :: values => sortKeys v :: sortKeysItems values

def sortKeysEntries : List (List UInt8 × RawCbor) → List (List UInt8 × RawCbor)
  | [] => []
  | (key, v) :: entries => (key, sortKeys v) :: sortKeysEntries entries

end

theorem sortKeysItems_eq (values : List RawCbor) :
    sortKeysItems values = values.map sortKeys := by
  induction values with
  | nil => rfl
  | cons v values ih => rw [sortKeysItems, ih, List.map_cons]

theorem sortKeysEntries_eq (entries : List (List UInt8 × RawCbor)) :
    sortKeysEntries entries = entries.map fun entry => (entry.1, sortKeys entry.2) := by
  induction entries with
  | nil => rfl
  | cons entry entries ih => rw [sortKeysEntries, ih, List.map_cons]

theorem perm_inKeyOrder (entries : List (List UInt8 × RawCbor)) :
    (inKeyOrder entries).Perm entries :=
  List.perm_insertionSort _ _

theorem mem_inKeyOrder {entries : List (List UInt8 × RawCbor)} {entry : List UInt8 × RawCbor} :
    entry ∈ inKeyOrder entries ↔ entry ∈ entries := (perm_inKeyOrder entries).mem_iff

theorem mem_texts_sortKeys {v : RawCbor} {s : List UInt8} :
    s ∈ texts (sortKeys v) ↔ s ∈ texts v := by
  induction v with
  | array values ih =>
    simp only [sortKeys, sortKeysItems_eq, texts, mem_textsItems, List.mem_map,
      exists_exists_and_eq_and]
    exact exists_congr fun v => and_congr_right fun hv => ih v hv
  | map entries ih =>
    simp only [sortKeys, sortKeysEntries_eq, texts, mem_textsEntries, mem_inKeyOrder,
      List.mem_map, exists_exists_and_eq_and]
    exact exists_congr fun entry => and_congr_right fun hentry =>
      or_congr_right (ih entry hentry)
  | _ => rfl

theorem Fits.sortKeys {v : RawCbor} (h : Fits v) : Fits v.sortKeys := by
  induction h with
  | @array values hlength hvalues ih =>
    rw [RawCbor.sortKeys, sortKeysItems_eq]
    exact .array (by rwa [List.length_map]) (List.forall_mem_map.mpr ih)
  | @map entries hlength hkeys hdistinct hvalues ih =>
    have hperm := perm_inKeyOrder (sortKeysEntries entries)
    have hfst : (sortKeysEntries entries).map Prod.fst = entries.map Prod.fst := by
      rw [sortKeysEntries_eq, List.map_map]
      rfl
    rw [RawCbor.sortKeys]
    refine .map ?_ ?_ ?_ ?_
    · rwa [hperm.length_eq, sortKeysEntries_eq, List.length_map]
    · intro entry hentry
      rw [mem_inKeyOrder, sortKeysEntries_eq] at hentry
      obtain ⟨entry', hentry', rfl⟩ := List.mem_map.mp hentry
      exact hkeys entry' hentry'
    · rwa [(hperm.map Prod.fst).nodup_iff, hfst]
    · intro entry hentry
      rw [mem_inKeyOrder, sortKeysEntries_eq] at hentry
      obtain ⟨entry', hentry', rfl⟩ := List.mem_map.mp hentry
      exact ih entry' hentry'
  | bool b => exact .bool b
  | uint hn => exact .uint hn
  | text hs => exact .text hs
  | bytes hdata => exact .bytes hdata

variable {duplicate}

theorem writeItems_of_write {values : List RawCbor}
    (h : ∀ v ∈ values, write duplicate v = .ok (encode (sortKeys v))) :
    writeItems duplicate values = .ok (encodeItems (values.map sortKeys)) := by
  induction values with
  | nil => rfl
  | cons v values ih =>
    rw [writeItems, h v List.mem_cons_self, ih fun w hw => h w (List.mem_cons_of_mem v hw)]
    rfl

theorem writeEntries_of_write {entries : List (List UInt8 × RawCbor)}
    (h : ∀ entry ∈ entries, write duplicate entry.2 = .ok (encode (sortKeys entry.2)))
    {seen : List (List UInt8)} (hseen : ∀ entry ∈ entries, entry.1 ∉ seen)
    (hdistinct : (entries.map Prod.fst).Nodup) :
    writeEntries duplicate seen entries =
      .ok (entries.map fun entry => (encodeText entry.1, encode (sortKeys entry.2))) := by
  induction entries generalizing seen with
  | nil => rfl
  | cons entry entries ih =>
    obtain ⟨key, v⟩ := entry
    rw [List.map_cons, List.nodup_cons] at hdistinct
    have hfresh := Cbor.fresh_of_nodup_cons hseen hdistinct.1
    have hkey : key ∉ seen := hseen (key, v) List.mem_cons_self
    rw [writeEntries, throwIf, if_neg hkey, h (key, v) List.mem_cons_self,
      ih (fun entry hentry => h entry (List.mem_cons_of_mem _ hentry)) hfresh hdistinct.2]
    rfl

theorem write_of_fits {v : RawCbor} (h : Fits v) :
    write duplicate v = .ok (encode (sortKeys v)) := by
  induction h with
  | @array values hlength hvalues ih =>
    rw [write, writeItems_of_write ih, sortKeys, encode, sortKeysItems_eq, List.length_map]
    rfl
  | @map entries hlength hkeys hdistinct hvalues ih =>
    have hencoded := @writeEntries_of_write _ duplicate _ ih [] (fun _ _ => List.not_mem_nil)
      hdistinct
    have hsort := Cbor.sortEncoded_map encodeText encode (sortKeysEntries entries)
    rw [sortKeysEntries_eq, List.map_map] at hsort
    rw [write, hencoded]
    show Except.ok _ = Except.ok _
    rw [List.length_map, sortKeys, encode, encodeEntries_eq_flatMap, sortKeysEntries_eq]
    simp only [Function.comp_def] at hsort
    rw [hsort, List.flatMap_map, inKeyOrder, List.length_insertionSort, List.length_map]
  | bool b => rfl
  | uint hn => rfl
  | text hs => rfl
  | bytes hdata => rfl

end Writing

section Texts

mutual

def ofCbor : Cbor → RawCbor
  | .bool b => .bool b
  | .uint n => .uint n
  | .text s => .text (Utf8.bytes s)
  | .bytes data => .bytes data
  | .array values => .array (ofCborItems values)
  | .map entries => .map (ofCborEntries entries)

def ofCborItems : List Cbor → List RawCbor
  | [] => []
  | v :: values => ofCbor v :: ofCborItems values

def ofCborEntries : List (String × Cbor) → List (List UInt8 × RawCbor)
  | [] => []
  | (key, v) :: entries => (Utf8.bytes key, ofCbor v) :: ofCborEntries entries

end

theorem ofCborItems_eq (values : List Cbor) : ofCborItems values = values.map ofCbor := by
  induction values with
  | nil => rfl
  | cons v values ih => rw [ofCborItems, ih, List.map_cons]

theorem ofCborEntries_eq (entries : List (String × Cbor)) :
    ofCborEntries entries = entries.map fun entry => (Utf8.bytes entry.1, ofCbor entry.2) := by
  induction entries with
  | nil => rfl
  | cons entry entries ih => rw [ofCborEntries, ih, List.map_cons]

theorem encodeText_bytes (s : String) : encodeText (Utf8.bytes s) = Cbor.encodeText s := by
  rw [encodeText, Utf8.length_bytes, Cbor.encodeText]

theorem encode_ofCbor (v : Cbor) : encode (ofCbor v) = Cbor.encode v := by
  induction v with
  | bool b => cases b <;> rfl
  | uint n => rfl
  | text s => exact encodeText_bytes s
  | bytes data => rfl
  | array values ih =>
    have hitems : encodeItems (ofCborItems values) = Cbor.encodeItems values := by
      induction values with
      | nil => rfl
      | cons v values ihs =>
        rw [ofCborItems, encodeItems, Cbor.encodeItems, ih v List.mem_cons_self,
          ihs fun w hw => ih w (List.mem_cons_of_mem v hw)]
    rw [ofCbor, encode, Cbor.encode, hitems, ofCborItems_eq, List.length_map]
  | map entries ih =>
    have hentries : encodeEntries (ofCborEntries entries) = Cbor.encodeEntries entries := by
      rw [encodeEntries_eq_flatMap, Cbor.encodeEntries_eq_flatMap, ofCborEntries_eq,
        List.flatMap_map]
      refine List.flatMap_congr fun entry hentry => ?_
      rw [encodeText_bytes, ih entry hentry]
    rw [ofCbor, encode, Cbor.encode, hentries, ofCborEntries_eq, List.length_map]

theorem inKeyOrder_ofCborEntries (entries : List (String × Cbor)) :
    inKeyOrder (ofCborEntries entries) = ofCborEntries (Cbor.inKeyOrder entries) := by
  let raw : String × Cbor → List UInt8 × RawCbor :=
    fun entry => (Utf8.bytes entry.1, ofCbor entry.2)
  have hsame : ∀ left ∈ entries, ∀ right ∈ entries,
      Cbor.encodeText left.1 ≤ Cbor.encodeText right.1 ↔
        encodeText (raw left).1 ≤ encodeText (raw right).1 := by
    intro left _ right _
    rw [encodeText_bytes, encodeText_bytes]
  rw [ofCborEntries_eq, ofCborEntries_eq]
  exact (List.map_insertionSort
    (fun left right : String × Cbor => Cbor.encodeText left.1 ≤ Cbor.encodeText right.1)
    (fun left right : List UInt8 × RawCbor => encodeText left.1 ≤ encodeText right.1) raw entries
    hsame).symm

theorem sortKeys_ofCbor (v : Cbor) : (ofCbor v).sortKeys = ofCbor v.sortKeys := by
  induction v with
  | array values ih =>
    rw [ofCbor, sortKeys, Cbor.sortKeys, ofCbor, ofCborItems_eq, ofCborItems_eq,
      sortKeysItems_eq, Cbor.sortKeysItems_eq, List.map_map, List.map_map]
    exact congrArg array (List.map_congr_left ih)
  | map entries ih =>
    have hentries : sortKeysEntries (ofCborEntries entries) =
        ofCborEntries (Cbor.sortKeysEntries entries) := by
      rw [sortKeysEntries_eq, ofCborEntries_eq, ofCborEntries_eq, Cbor.sortKeysEntries_eq,
        List.map_map, List.map_map]
      exact List.map_congr_left fun entry hentry => Prod.ext rfl (ih entry hentry)
    rw [ofCbor, sortKeys, Cbor.sortKeys, ofCbor, hentries, inKeyOrder_ofCborEntries]
  | _ => rfl

theorem mem_texts_ofCbor {v : Cbor} {s : List UInt8} :
    s ∈ texts (ofCbor v) ↔ ∃ t ∈ Cbor.texts v, Utf8.bytes t = s := by
  induction v with
  | array values ih =>
    simp only [ofCbor, ofCborItems_eq, texts, mem_textsItems, Cbor.texts, Cbor.mem_textsItems,
      List.mem_map, exists_exists_and_eq_and]
    constructor
    · rintro ⟨v, hv, hs⟩
      obtain ⟨t, ht, rfl⟩ := (ih v hv).mp hs
      exact ⟨t, ⟨v, hv, ht⟩, rfl⟩
    · rintro ⟨t, ⟨v, hv, ht⟩, rfl⟩
      exact ⟨v, hv, (ih v hv).mpr ⟨t, ht, rfl⟩⟩
  | map entries ih =>
    simp only [ofCbor, ofCborEntries_eq, texts, mem_textsEntries, Cbor.texts,
      Cbor.mem_textsEntries, List.mem_map, exists_exists_and_eq_and]
    constructor
    · rintro ⟨entry, hentry, rfl | hs⟩
      · exact ⟨entry.1, ⟨entry, hentry, .inl rfl⟩, rfl⟩
      · obtain ⟨t, ht, rfl⟩ := (ih entry hentry).mp hs
        exact ⟨t, ⟨entry, hentry, .inr ht⟩, rfl⟩
    · rintro ⟨t, ⟨entry, hentry, rfl | ht⟩, rfl⟩
      · exact ⟨entry, hentry, .inl rfl⟩
      · exact ⟨entry, hentry, .inr ((ih entry hentry).mpr ⟨t, ht, rfl⟩)⟩
  | text s => simp [ofCbor, texts, Cbor.texts, eq_comm]
  | _ => simp [ofCbor, texts, Cbor.texts]

theorem fits_ofCbor {r : Cbor.Rules} {v : Cbor} (h : Cbor.Fits r v) : Fits (ofCbor v) := by
  have hargument := r.maxArgument_lt
  have hbytes := r.maxBytes_le
  have htexts := r.maxTextBytes_le
  have hentries := r.maxEntries_le
  induction h with
  | bool b => exact .bool b
  | uint hn => exact .uint (by omega)
  | text hs =>
    refine .text ?_
    rw [Utf8.length_bytes]
    have := hs.2
    omega
  | bytes hdata => exact .bytes (by omega)
  | @array values hlength hvalues ih =>
    rw [ofCbor, ofCborItems_eq]
    exact .array (by rw [List.length_map]; omega) (List.forall_mem_map.mpr ih)
  | @map entries hlength hkeys hdistinct hvalues ih =>
    rw [ofCbor, ofCborEntries_eq]
    refine .map (by rw [List.length_map]; omega) ?_ ?_ (List.forall_mem_map.mpr ih)
    · refine List.forall_mem_map.mpr fun entry hentry => ?_
      have := (hkeys entry hentry).2
      rw [Utf8.length_bytes]
      omega
    · rw [List.map_map]
      have hnodup := hdistinct.map Utf8.bytes_injective
      rwa [List.map_map] at hnodup

theorem write_ofCbor {ε : Type} {duplicate : ε} {r : Cbor.Rules} {v : Cbor} (h : Cbor.Fits r v) :
    write duplicate (ofCbor v) = .ok (Cbor.encode v.sortKeys) := by
  rw [write_of_fits (fits_ofCbor h), sortKeys_ofCbor, encode_ofCbor]

theorem ofCbor_eq_of_encode_eq {r : Cbor.Rules} {v : Cbor} {w : RawCbor} (hv : Cbor.Wire r v)
    (hw : Fits w) (h : Cbor.encode v = encode w.sortKeys) : ofCbor v = w.sortKeys :=
  encode_inj (fits_ofCbor hv.fits) hw.sortKeys ((encode_ofCbor v).trans h)

theorem exists_bytes_of_encode_eq {r : Cbor.Rules} {v : Cbor} {w : RawCbor}
    (hv : Cbor.Wire r v) (hw : Fits w) (h : Cbor.encode v = encode w.sortKeys) :
    ∀ s ∈ texts w, ∃ t, Utf8.bytes t = s := by
  intro s hs
  rw [← mem_texts_sortKeys, ← ofCbor_eq_of_encode_eq hv hw h] at hs
  obtain ⟨t, _, ht⟩ := mem_texts_ofCbor.mp hs
  exact ⟨t, ht⟩

end Texts

end RawCbor

end Branch.Lib
