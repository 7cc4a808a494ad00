import SurvivalArena.Framework.Numerals

/-!
# Exact byte codecs

A reader consumes a prefix of a byte string or stops at its first error.  A
reader is *exact* for a writer on a set of values when it yields such a value
precisely on the strings that start with the writer's output for it.  One
equivalence holds both directions of a round trip: what is written is read
back, and what is read was written.
-/

namespace Wire

abbrev Bytes := List UInt8

/-- A reader over the remaining bytes with errors of type `ε`. -/
abbrev Reader (ε α : Type) := StateT Bytes (Except ε) α

variable {ε α β : Type}

/-- Stop with `e`. -/
def stop (e : ε) : Reader ε α :=
  fun _ => .error e

/-- Stop with `e` unless `c` holds. -/
def require (c : Bool) (e : ε) : Reader ε Unit :=
  fun input => if c then .ok ((), input) else .error e

theorem bind_eq_ok {r : Reader ε α} {next : α → Reader ε β}
    {input rest : Bytes} {b : β} :
    (r >>= next) input = .ok (b, rest) ↔
      ∃ a mid, r input = .ok (a, mid) ∧ next a mid = .ok (b, rest) := by
  change (r input >>= fun p => next p.1 p.2) = .ok (b, rest) ↔ _
  cases h : r input with
  | error e => simp [bind, Except.bind]
  | ok p =>
    constructor
    · exact fun hn => ⟨p.1, p.2, rfl, hn⟩
    · rintro ⟨a, mid, hp, hn⟩
      cases hp
      exact hn

theorem pure_eq_ok {a b : α} {input rest : Bytes} :
    (pure a : Reader ε α) input = .ok (b, rest) ↔ a = b ∧ input = rest := by
  change Except.ok (a, input) = Except.ok (b, rest) ↔ _
  simp

theorem map_eq_ok {f : α → β} {r : Reader ε α} {input rest : Bytes} {b : β} :
    (f <$> r) input = .ok (b, rest) ↔
      ∃ a, r input = .ok (a, rest) ∧ f a = b := by
  rw [map_eq_pure_bind, bind_eq_ok]
  simp [pure_eq_ok]

theorem require_eq_ok {c : Bool} {e : ε} {input rest : Bytes} {u : Unit} :
    require c e input = .ok (u, rest) ↔ c = true ∧ input = rest := by
  unfold require
  split <;> simp_all

theorem require_bind_eq_ok {c : Bool} {e : ε} {next : Unit → Reader ε β}
    {input rest : Bytes} {b : β} :
    (require c e >>= next) input = .ok (b, rest) ↔
      c = true ∧ next () input = .ok (b, rest) := by
  simp only [bind_eq_ok, require_eq_ok]
  constructor
  · rintro ⟨_, mid, ⟨hc, rfl⟩, hn⟩
    exact ⟨hc, hn⟩
  · rintro ⟨hc, hn⟩
    exact ⟨(), input, ⟨hc, rfl⟩, hn⟩

/-- On the values of `P` the reader `r` succeeds exactly on the outputs of `w`. -/
def ExactOn (P : α → Prop) (r : Reader ε α) (w : α → Bytes) : Prop :=
  ∀ a, P a → ∀ input rest, r input = .ok (a, rest) ↔ input = w a ++ rest

/-- A reader that is exact on every value. -/
def Exact (r : Reader ε α) (w : α → Bytes) : Prop :=
  ∀ a input rest, r input = .ok (a, rest) ↔ input = w a ++ rest

namespace Exact

variable {r : Reader ε α} {w : α → Bytes}

theorem exactOn (h : Exact r w) (P : α → Prop) : ExactOn P r w :=
  fun a _ => h a

theorem eq_ok (h : Exact r w) {input rest : Bytes} {a : α} :
    r input = .ok (a, rest) ↔ input = w a ++ rest :=
  h a input rest

theorem bind_eq_ok (h : Exact r w) {next : α → Reader ε β}
    {input rest : Bytes} {b : β} :
    (r >>= next) input = .ok (b, rest) ↔
      ∃ a mid, input = w a ++ mid ∧ next a mid = .ok (b, rest) := by
  simp only [Wire.bind_eq_ok, h.eq_ok]

end Exact

namespace ExactOn

variable {r : Reader ε α} {w : α → Bytes} {P : α → Prop}

theorem eq_ok (h : ExactOn P r w) {a : α} (ha : P a) {input rest : Bytes} :
    r input = .ok (a, rest) ↔ input = w a ++ rest :=
  h a ha input rest

theorem read_write (h : ExactOn P r w) {a : α} (ha : P a) (rest : Bytes) :
    r (w a ++ rest) = .ok (a, rest) :=
  (h.eq_ok ha).mpr rfl

theorem mono (h : ExactOn P r w) {Q : α → Prop} (hQ : ∀ a, Q a → P a) :
    ExactOn Q r w :=
  fun a ha => h a (hQ a ha)

/-- A field that is present only under a condition, with a default otherwise. -/
theorem optional (h : ExactOn P r w) (c : Bool) (d : α) :
    ExactOn (fun a => if c then P a else a = d)
      (if c then r else pure d) (fun a => if c then w a else []) := by
  intro a ha input rest
  cases c with
  | true => exact h.eq_ok (by simpa using ha)
  | false =>
    obtain rfl : a = d := by simpa using ha
    change (pure a : Reader ε α) input = .ok (a, rest) ↔ _
    rw [pure_eq_ok]
    simp

end ExactOn

/-! ## Whole inputs -/

/-- Read an input to its end, or stop with `trailing` when bytes are left. -/
def complete (trailing : ε) (r : Reader ε α) (input : Bytes) : Except ε α :=
  match r input with
  | .error e => .error e
  | .ok (a, rest) => if rest.isEmpty then .ok a else .error trailing

theorem complete_eq_ok {trailing : ε} {r : Reader ε α} {input : Bytes} {a : α} :
    complete trailing r input = .ok a ↔ r input = .ok (a, []) := by
  unfold complete
  cases hread : r input with
  | error e => simp
  | ok result =>
    obtain ⟨value, rest⟩ := result
    cases rest with
    | nil => simp
    | cons first rest => simp

/-- A reader of valid values only, exact on them. -/
structure Reads (Valid : α → Prop) (r : Reader ε α) (w : α → Bytes) : Prop where
  exact : ExactOn Valid r w
  valid : ∀ a input rest, r input = .ok (a, rest) → Valid a

theorem Reads.eq_ok {Valid : α → Prop} {r : Reader ε α} {w : α → Bytes}
    (h : Reads Valid r w) {input rest : Bytes} {a : α} :
    r input = .ok (a, rest) ↔ Valid a ∧ input = w a ++ rest :=
  ⟨fun hread => ⟨h.valid a input rest hread, (h.exact.eq_ok (h.valid a input rest hread)).mp
    hread⟩, fun ⟨hvalid, hinput⟩ => (h.exact.eq_ok hvalid).mpr hinput⟩

theorem Reads.of_eq_ok {Valid : α → Prop} {r : Reader ε α} {w : α → Bytes}
    (h : ∀ a input rest, r input = .ok (a, rest) ↔ Valid a ∧ input = w a ++ rest) :
    Reads Valid r w where
  exact a ha input rest := by rw [h a input rest, and_iff_right ha]
  valid a input rest hread := ((h a input rest).mp hread).1

theorem Reads.complete_eq_ok {Valid : α → Prop} {r : Reader ε α} {w : α → Bytes}
    (h : Reads Valid r w) {trailing : ε} {input : Bytes} {a : α} :
    complete trailing r input = .ok a ↔ Valid a ∧ input = w a := by
  rw [Wire.complete_eq_ok, h.eq_ok, List.append_nil]

/-- A whole input as one case of a message. -/
theorem Reads.map_complete_eq_ok {Valid : α → Prop} {r : Reader ε α} {w : α → Bytes}
    (h : Reads Valid r w) {f : α → β} {trailing : ε} {input : Bytes} {b : β} :
    (f <$> complete trailing r input) = .ok b ↔ ∃ a, b = f a ∧ Valid a ∧ input = w a := by
  have hmap : (f <$> complete trailing r input) = .ok b ↔
      ∃ a, complete trailing r input = .ok a ∧ b = f a := by
    cases complete trailing r input with
    | error e => simp
    | ok a => simp [eq_comm]
  rw [hmap]
  constructor
  · rintro ⟨a, hread, hb⟩
    exact ⟨a, hb, h.complete_eq_ok.mp hread⟩
  · rintro ⟨a, hb, hvalid⟩
    exact ⟨a, h.complete_eq_ok.mpr hvalid, hb⟩

theorem Exact.reads {r : Reader ε α} {w : α → Bytes} (h : Exact r w) :
    Reads (fun _ => True) r w :=
  ⟨h.exactOn _, fun _ _ _ _ => trivial⟩

/-! ## Little-endian numbers -/

/-- The `n` low-order bytes of a number, least significant first. -/
def leBytes : Nat → Nat → Bytes
  | 0, _ => []
  | n + 1, v => UInt8.ofNat (v % 256) :: leBytes n (v / 256)

/-- The number a little-endian byte string denotes. -/
def leValue : Bytes → Nat
  | [] => 0
  | b :: bs => b.toNat + 256 * leValue bs

@[simp]
theorem length_leBytes (n v : Nat) : (leBytes n v).length = n := by
  induction n generalizing v with
  | zero => rfl
  | succ n ih => simp [leBytes, ih]

theorem leValue_leBytes (n v : Nat) (hv : v < 256 ^ n) :
    leValue (leBytes n v) = v := by
  induction n generalizing v with
  | zero => simp only [pow_zero] at hv; simp [leBytes, leValue]; omega
  | succ n ih =>
    have hdiv : v / 256 < 256 ^ n := by
      rw [Nat.div_lt_iff_lt_mul (by decide)]
      simpa [pow_succ] using hv
    have hbyte : (UInt8.ofNat (v % 256)).toNat = v % 256 := by
      simp
    simp only [leBytes, leValue, ih _ hdiv, hbyte]
    omega

theorem leValue_lt (bs : Bytes) : leValue bs < 256 ^ bs.length := by
  induction bs with
  | nil => simp [leValue]
  | cons b bs ih =>
    have hb : b.toNat < 256 := b.toNat_lt
    simp only [leValue, List.length_cons, pow_succ]
    omega

theorem leBytes_leValue (bs : Bytes) : leBytes bs.length (leValue bs) = bs := by
  induction bs with
  | nil => rfl
  | cons b bs ih =>
    have hb : b.toNat < 256 := b.toNat_lt
    have hmod : (b.toNat + 256 * leValue bs) % 256 = b.toNat := by omega
    have hdiv : (b.toNat + 256 * leValue bs) / 256 = leValue bs := by omega
    simp [leBytes, leValue, hmod, hdiv, ih]

/-- Take `n` bytes, or stop with `truncated` when fewer remain. -/
def takeBytes (truncated : ε) (n : Nat) : Reader ε Bytes :=
  fun input =>
    if n ≤ input.length then .ok (input.take n, input.drop n)
    else .error truncated

theorem takeBytes_eq_ok {truncated : ε} {n : Nat} {input bs rest : Bytes} :
    takeBytes truncated n input = .ok (bs, rest) ↔
      bs.length = n ∧ input = bs ++ rest := by
  unfold takeBytes
  split
  · rename_i h
    simp only [Except.ok.injEq, Prod.mk.injEq]
    constructor
    · rintro ⟨rfl, rfl⟩
      exact ⟨by simp [h], (List.take_append_drop n input).symm⟩
    · rintro ⟨rfl, rfl⟩
      simp
  · rename_i h
    simp only [reduceCtorEq, false_iff]
    rintro ⟨rfl, rfl⟩
    simp at h

/-- Read an `n`-byte little-endian number. -/
def readLe (truncated : ε) (n : Nat) : Reader ε Nat :=
  leValue <$> takeBytes truncated n

theorem readLe_eq_ok {truncated : ε} {n v : Nat} {input rest : Bytes} :
    readLe truncated n input = .ok (v, rest) ↔
      v < 256 ^ n ∧ input = leBytes n v ++ rest := by
  rw [readLe, map_eq_ok]
  constructor
  · rintro ⟨bs, h, rfl⟩
    obtain ⟨rfl, rfl⟩ := takeBytes_eq_ok.mp h
    exact ⟨leValue_lt bs, by rw [leBytes_leValue]⟩
  · rintro ⟨hv, rfl⟩
    exact ⟨leBytes n v, takeBytes_eq_ok.mpr ⟨length_leBytes n v, rfl⟩,
      leValue_leBytes n v hv⟩

/-- Reading a fixed-width number through its bijection with a bounded range. -/
theorem readLe_exact {truncated : ε} {n : Nat} {f : Nat → α} {g : α → Nat}
    (hg : ∀ a, g a < 256 ^ n) (hfg : ∀ a, f (g a) = a)
    (hgf : ∀ v, v < 256 ^ n → g (f v) = v) :
    Exact (f <$> readLe truncated n) (fun a => leBytes n (g a)) := by
  intro a input rest
  rw [map_eq_ok]
  constructor
  · rintro ⟨v, h, rfl⟩
    obtain ⟨hv, rfl⟩ := readLe_eq_ok.mp h
    simp only [hgf v hv]
  · rintro rfl
    exact ⟨g a, readLe_eq_ok.mpr ⟨hg a, rfl⟩, hfg a⟩

/-! ## Sequences -/

/-- Read `n` values one after another. -/
def readMany (r : Reader ε α) : Nat → Reader ε (List α)
  | 0 => pure []
  | n + 1 => do
    let a ← r
    let as ← readMany r n
    pure (a :: as)

theorem readMany_length {r : Reader ε α} {n : Nat} {input rest : Bytes}
    {as : List α} (h : readMany r n input = .ok (as, rest)) :
    as.length = n := by
  induction n generalizing input rest as with
  | zero =>
    obtain ⟨rfl, -⟩ := pure_eq_ok.mp h
    rfl
  | succ n ih =>
    simp only [readMany, bind_eq_ok, pure_eq_ok] at h
    obtain ⟨a, mid, -, as', mid', has, rfl, -⟩ := h
    simp [ih has]

theorem readMany_exactOn {P : α → Prop} {r : Reader ε α} {w : α → Bytes}
    (h : ExactOn P r w) (n : Nat) :
    ExactOn (fun as => as.length = n ∧ ∀ a ∈ as, P a)
      (readMany r n) (fun as => as.flatMap w) := by
  induction n with
  | zero =>
    rintro as ⟨hlen, -⟩ input rest
    obtain rfl := List.length_eq_zero_iff.mp hlen
    simp [readMany, pure_eq_ok]
  | succ n ih =>
    rintro as ⟨hlen, has⟩ input rest
    cases as with
    | nil => simp at hlen
    | cons a as =>
      simp only [List.mem_cons, forall_eq_or_imp] at has
      have hlen' : as.length = n := by simpa using hlen
      simp only [readMany, bind_eq_ok, pure_eq_ok]
      constructor
      · rintro ⟨b, mid, hb, bs, mid', hbs, heq, rfl⟩
        obtain ⟨rfl, rfl⟩ := List.cons.inj heq
        rw [(h.eq_ok has.1).mp hb, (ih.eq_ok ⟨hlen', has.2⟩).mp hbs]
        simp
      · rintro rfl
        refine ⟨a, as.flatMap w ++ rest, ?_, as, rest, ?_, rfl, rfl⟩
        · exact (h.eq_ok has.1).mpr (by simp)
        · exact ih.read_write ⟨hlen', has.2⟩ rest

theorem readMany_reads {Valid : α → Prop} {r : Reader ε α} {w : α → Bytes}
    (h : Reads Valid r w) (n : Nat) :
    Reads (fun as => as.length = n ∧ ∀ a ∈ as, Valid a) (readMany r n)
      (fun as => as.flatMap w) where
  exact := readMany_exactOn h.exact n
  valid as input rest hread := by
    refine ⟨readMany_length hread, ?_⟩
    induction n generalizing input rest as with
    | zero =>
      obtain ⟨rfl, -⟩ := pure_eq_ok.mp hread
      exact fun a ha => absurd ha List.not_mem_nil
    | succ n ih =>
      simp only [readMany, bind_eq_ok, pure_eq_ok] at hread
      obtain ⟨first, _, hfirst, others, _, hothers, rfl, rfl⟩ := hread
      intro a ha
      obtain rfl | hlater := List.mem_cons.mp ha
      · exact h.valid a _ _ hfirst
      · exact ih others _ _ hothers a hlater

end Wire

/-! ## Canonical codecs

A codec of messages that have a canonical form.  The encoder writes the canonical form of a
valid message.  The decoder takes whatever is written of a valid message, in any form, and
answers its canonical form.
-/

namespace Wire

variable {ε ε' μ β : Type}

structure CanonicalCodec (Valid : μ → Prop) (canonical : μ → μ) (write : μ → β)
    (encode : μ → Except ε β) (decode : β → Except ε' μ) : Prop where
  canonical_valid : ∀ message, Valid message → Valid (canonical message)
  canonical_canonical : ∀ message, canonical (canonical message) = canonical message
  encode_eq_ok : ∀ message bytes,
    encode message = .ok bytes ↔ Valid message ∧ bytes = write (canonical message)
  decode_eq_ok : ∀ bytes message, decode bytes = .ok message ↔
    ∃ raw, Valid raw ∧ bytes = write raw ∧ message = canonical raw

/-- A reader that accepts what is written of a valid message, in any form, and answers its
canonical form. -/
def ReadsAs (Valid : μ → Prop) (canonical : μ → μ) (r : Reader ε μ) (w : μ → Bytes) : Prop :=
  ∀ input rest message, r input = .ok (message, rest) ↔
    ∃ raw, Valid raw ∧ message = canonical raw ∧ input = w raw ++ rest

/-- No message is the beginning of another one. -/
theorem ReadsAs.prefix_free {Valid : μ → Prop} {canonical : μ → μ} {r : Reader ε μ}
    {w : μ → Bytes} (h : ReadsAs Valid canonical r w) {first second : μ} (hfirst : Valid first)
    (hsecond : Valid second) {more : Bytes} (hmore : w second = w first ++ more) : more = [] := by
  have hread : r (w second) = .ok (canonical first, more) :=
    (h _ _ _).mpr ⟨first, hfirst, rfl, hmore⟩
  have hwhole : r (w second) = .ok (canonical second, []) :=
    (h _ _ _).mpr ⟨second, hsecond, rfl, (List.append_nil _).symm⟩
  rw [hread] at hwhole
  exact congrArg Prod.snd (Except.ok.inj hwhole)

theorem ReadsAs.complete_eq_ok {Valid : μ → Prop} {canonical : μ → μ} {r : Reader ε μ}
    {w : μ → Bytes} (h : ReadsAs Valid canonical r w) {trailing : ε} {input : Bytes}
    {message : μ} : complete trailing r input = .ok message ↔
      ∃ raw, Valid raw ∧ message = canonical raw ∧ input = w raw := by
  rw [Wire.complete_eq_ok, h]
  simp only [List.append_nil]

/-- What is encoded is decoded to the canonical form, and nothing else is decoded. -/
structure ExactCodec (canonical : μ → μ) (encode : μ → Except ε β)
    (decode : β → Except ε' μ) : Prop where
  decodes : ∀ message bytes, encode message = .ok bytes →
    decode bytes = .ok (canonical message)
  reencodes : ∀ bytes message, decode bytes = .ok message → encode message = .ok bytes

namespace CanonicalCodec

variable {Valid : μ → Prop} {canonical : μ → μ} {write : μ → β} {encode : μ → Except ε β}
  {decode : β → Except ε' μ}

theorem decodes (h : CanonicalCodec Valid canonical write encode decode) {message : μ}
    {bytes : β} (hencode : encode message = .ok bytes) :
    decode bytes = .ok (canonical message) := by
  obtain ⟨hvalid, hbytes⟩ := (h.encode_eq_ok message bytes).mp hencode
  exact (h.decode_eq_ok bytes (canonical message)).mpr ⟨canonical message,
    h.canonical_valid message hvalid, hbytes, (h.canonical_canonical message).symm⟩

/-- A decoded message is encoded in its canonical form, whatever form it came in. -/
theorem reencodes (h : CanonicalCodec Valid canonical write encode decode) {message : μ}
    {bytes : β} (hdecode : decode bytes = .ok message) :
    ∃ raw, message = canonical raw ∧ bytes = write raw ∧
      encode message = .ok (write message) := by
  obtain ⟨raw, hvalid, hbytes, hmessage⟩ := (h.decode_eq_ok bytes message).mp hdecode
  refine ⟨raw, hmessage, hbytes, (h.encode_eq_ok message (write message)).mpr ⟨?_, ?_⟩⟩
  · rw [hmessage]
    exact h.canonical_valid raw hvalid
  · rw [hmessage, h.canonical_canonical]

end CanonicalCodec

end Wire
