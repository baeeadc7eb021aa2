import Mathlib.Data.List.Basic
import Mathlib.Logic.Relation

namespace ModTls
set_option autoImplicit true

/-- The `apr_status_t` values the filters test for or return; any other status is `other`. -/
inductive AprStatus
  | success
  | eagain
  | eof
  | econnreset
  | econnaborted
  | enotimpl
  | enomem
  | other (code : Nat)
  deriving DecidableEq, Repr

/-- `rustls_result`: `RUSTLS_RESULT_OK` or an error code. -/
inductive RustlsResult
  | ok
  | err (code : Nat)
  deriving DecidableEq, Repr

/-- `apr_read_type_e`. -/
inductive ReadType
  | block
  | nonblock
  deriving DecidableEq, Repr

/-- `ap_input_mode_t`. -/
inductive InputMode
  | readbytes
  | getline
  | eatcrlf
  | speculative
  | exhaustive
  | init
  deriving DecidableEq, Repr

/-- `tls_conn_state_t`, the phase of a connection (`cc->state`). -/
inductive ConnState
  | ignored
  | preHandshake
  | handshake
  | traffic
  | notified
  | done
  deriving DecidableEq, Repr

/-- A bucket of `fin_tls_bb`; a `readFails` bucket's `apr_bucket_read` reports the status. -/
inductive InBucket
  | data (bytes : List UInt8)
  | readFails (rv : AprStatus)
  | eos
  deriving DecidableEq, Repr

/-- `apr_bucket_read` on a non-EOS input bucket. -/
def InBucket.read : InBucket → AprStatus × List UInt8
  | .data bytes => (.success, bytes)
  | .readFails rv => (rv, [])
  | .eos => (.success, [])

/-- The bytes of the data buckets of an input brigade, in order. -/
def dataBytes : List InBucket → List UInt8
  | [] => []
  | .data bytes :: bb => bytes ++ dataBytes bb
  | _ :: bb => dataBytes bb

theorem dataBytes_cons {b : InBucket} : dataBytes (b :: bb) = b.read.2 ++ dataBytes bb := by
  cases b <;> rfl

theorem InBucket.read_bytes_of_ne_success {b : InBucket} (h : b.read.1 ≠ .success) : b.read.2 = [] := by
  cases b <;> simp_all [InBucket.read]

/-- A bucket of an output brigade; a `pipe` bucket yields its chunks, then `last`. -/
inductive OutBucket
  | heap (bytes : List UInt8)
  | file (bytes : List UInt8)
  | pipe (chunks : List (List UInt8)) (last : AprStatus)
  | flush
  | eos
  | eoc
  deriving DecidableEq, Repr

/-- `APR_BUCKET_IS_METADATA`. -/
def OutBucket.isMetadata : OutBucket → Bool
  | .flush | .eos | .eoc => true
  | _ => false

/-- `b->length`: `none` is `(apr_size_t)-1`, the length of a bucket not yet read. -/
def OutBucket.length : OutBucket → Option Nat
  | .heap bytes | .file bytes => some bytes.length
  | .pipe .. => none
  | _ => some 0

/-- The bytes `apr_bucket_read` yields for a bucket of known length. -/
def OutBucket.bytes : OutBucket → List UInt8
  | .heap bytes | .file bytes => bytes
  | _ => []

/-- The bucket of the same kind over other bytes, as `b->start` and `b->length` move. -/
def OutBucket.withBytes : OutBucket → List UInt8 → OutBucket
  | .heap _, bytes => .heap bytes
  | .file _, bytes => .file bytes
  | b, _ => b

@[simp] theorem OutBucket.eoc_eq_withBytes {b : OutBucket} {bytes : List UInt8} :
    .eoc = b.withBytes bytes ↔ .eoc = b := by
  cases b <;> simp [withBytes]

/-- Blocking `apr_bucket_read` on a `pipe`: the status, the bytes read, and the rest of the pipe. -/
def pipeRead : List (List UInt8) → AprStatus → AprStatus × List UInt8 × List OutBucket
  | chunk :: chunks, last => (.success, chunk, [.pipe chunks last])
  | [], last => (last, [], [])

theorem eoc_not_mem_pipeRead : .eoc ∉ (pipeRead chunks last).2.2 := by
  cases chunks <;> simp [pipeRead]

/-- The data an output bucket holds; a pipe's is all its chunks. -/
def OutBucket.data : OutBucket → List UInt8
  | .heap bytes | .file bytes => bytes
  | .pipe chunks _ => chunks.flatten
  | _ => []

theorem OutBucket.data_eq_nil_of_isMetadata {b : OutBucket} (h : b.isMetadata) : b.data = [] := by
  cases b <;> simp_all [isMetadata, data]

/-- The data of an output brigade, in order. -/
def outBytes : List OutBucket → List UInt8
  | [] => []
  | b :: bb => b.data ++ outBytes bb

@[simp] theorem outBytes_nil : outBytes [] = [] := rfl

@[simp] theorem outBytes_cons : outBytes (b :: bb) = b.data ++ outBytes bb := rfl

@[simp] theorem outBytes_append : outBytes (bb₁ ++ bb₂) = outBytes bb₁ ++ outBytes bb₂ := by
  induction bb₁ with
  | nil => rfl
  | cons b bb ih => simp [ih]

theorem pipeRead_data : (pipeRead chunks last).2.1 ++ outBytes (pipeRead chunks last).2.2 =
    chunks.flatten := by
  cases chunks <;> simp [pipeRead, OutBucket.data]

/-- The compile-time sizes, defined outside the filter source, as parameters. -/
structure Limits where
  prefWriteSize : Nat
  prefTlsWriteSize : Nat
  recExtra : Nat
  maxBucketSize : Nat
  bucketBuffSize : Nat
  hugeStringLen : Nat
  prefWriteSize_pos : 0 < prefWriteSize
  prefTlsWriteSize_pos : 0 < prefTlsWriteSize
  maxBucketSize_pos : 0 < maxBucketSize
  bucketBuffSize_pos : 0 < bucketBuffSize

/-- How a modelled call can fail to return normally. -/
inductive Fault
  | outOfFuel
  | nullBrigade
  | assertFailed
  deriving DecidableEq, Repr

/-- Modelled from the spec: `tls_util_rustls_error`, an engine error as a connection reset. -/
def tlsUtilRustlsError (_code : Nat) : AprStatus := .econnreset

/-- `apr_brigade_cleanup` on `fin_tls_buffer_bb`, which is `NULL` outside the sniffing phase. -/
def aprBrigadeCleanup : Option (List UInt8) → Except Fault (Option (List UInt8))
  | some _ => .ok (some [])
  | none => .error .nullBrigade

@[simp] theorem ok_bind (a : α) (f : α → Except ε β) : (Except.ok a >>= f) = f a := rfl

@[simp] theorem error_bind (e : ε) (f : α → Except ε β) : (Except.error e >>= f) = .error e := rfl

@[simp] theorem pure_eq_ok (a : α) : (pure a : Except ε α) = .ok a := rfl

-- With this congruence `simp` runs a concrete call step by step, never unfolding continuations.
@[congr] theorem bind_congr_left {x x' : Except ε α} (h : x = x') (f : α → Except ε β) :
    x >>= f = x' >>= f := h ▸ rfl

theorem bind_eq_ok {x : Except ε α} {f : α → Except ε β} :
    x >>= f = .ok b ↔ ∃ a, x = .ok a ∧ f a = .ok b := by
  cases x <;> simp

theorem reflTransGen_invariant {r : α → α → Prop} (P : α → Prop) (hstep : ∀ {a b}, r a b → P a → P b)
    (h : Relation.ReflTransGen r a b) (ha : P a) : P b := by
  induction h with
  | refl => exact ha
  | tail _ hr ih => exact hstep hr ih

/-- `ap_assert`. -/
def apAssert (p : Prop) [Decidable p] : Except Fault Unit :=
  if p then .ok () else .error .assertFailed

/-- The result of a call that fails no `ap_assert` and, when it returns, satisfies `P`. -/
def AssertSafe (P : α → Prop) : Except Fault α → Prop
  | .ok a => P a
  | .error e => e ≠ .assertFailed

@[simp] theorem assertSafe_ok {P : α → Prop} {a : α} : AssertSafe P (.ok a : Except Fault α) ↔ P a :=
  Iff.rfl

@[simp] theorem assertSafe_error {P : α → Prop} {e : Fault} :
    AssertSafe P (.error e : Except Fault α) ↔ e ≠ .assertFailed :=
  Iff.rfl

theorem AssertSafe.bind {x : Except Fault α} {f : α → Except Fault β} (h : AssertSafe Q x)
    (hf : ∀ a, Q a → AssertSafe P (f a)) : AssertSafe P (x >>= f) := by
  cases x with
  | error e => exact h
  | ok a => exact hf a h

theorem AssertSafe.imp {r : Except Fault α} (h : AssertSafe P r) (hpq : ∀ a, P a → Q a) :
    AssertSafe Q r := by
  cases r with
  | error e => exact h
  | ok a => exact hpq a h

theorem AssertSafe.ne_assertFailed {r : Except Fault α} (h : AssertSafe P r) :
    r ≠ .error .assertFailed := by
  rintro rfl
  exact h rfl

theorem AssertSafe.of_ok {r : Except Fault α} (h : AssertSafe P r) (hr : r = .ok a) : P a := by
  subst hr
  exact h

theorem apAssert_safe [Decidable p] (hp : p) : AssertSafe (fun _ => True) (apAssert p) := by
  simp [apAssert, hp]

end ModTls
