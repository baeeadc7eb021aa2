import ModTls.ReadTls
import ModTls.TlsOut

namespace ModTls
set_option autoImplicit true

/-- `fout_plain_buf_to_rustls`: offer the plaintext buffer to the session, keep what it left. -/
def foutPlainBufToRustls (S : ServerSession σ) (fout : FoutCtx) (session : σ) :
    AprStatus × FoutCtx × σ :=
  if 0 < fout.foutBufPlain.length then
    match S.write session fout.foutBufPlain with
    | (.err code, _, session) => (tlsUtilRustlsError code, fout, session)
    | (.ok, wlen, session) =>
      let fout := { fout with foutBytesInRustls := fout.foutBytesInRustls + wlen }
      if fout.foutBufPlain.length ≤ wlen then (.success, { fout with foutBufPlain := [] }, session)
      else if wlen = 0 then (.eagain, fout, session)
      else (.success, { fout with foutBufPlain := fout.foutBufPlain.drop wlen }, session)
  else (.success, fout, session)

section
variable (L : Limits) (E : Env σ ν)

/-- The `buf_remain == 0` block of `fout_plain_buf_append`: flush, then assert there is room. -/
def foutMakeRoom (c : Conn σ ν) : Except Fault (AprStatus × Conn σ ν) :=
  if c.fout.foutBufPlainSize - c.fout.foutBufPlain.length = 0 then do
    let (rv, fout, session) := foutPlainBufToRustls E.toServerSession c.fout c.session
    let c := { c with fout, session }
    if rv = .success then apAssert (0 < c.fout.foutBufPlainSize - c.fout.foutBufPlain.length)
    pure (rv, c)
  else pure (.success, c)

/-- `apr_bucket_split(b, buf_remain)`: the bytes left in `b`, and the brigade behind it. -/
def bucketSplit (b : OutBucket) (dlen bufRemain : Nat) (rest : List OutBucket) :
    List UInt8 × List OutBucket :=
  if bufRemain < dlen then (b.bytes.take bufRemain, b.withBytes (b.bytes.drop bufRemain) :: rest)
  else (b.bytes, rest)

/-- The file and memory branches of `fout_plain_buf_append` on the `bytes` left in `b`. -/
def foutAppendBytes (c : Conn σ ν) (b : OutBucket) (bytes : List UInt8) (rest : List OutBucket)
    (bufRemain : Nat) : Except Fault (AprStatus × Nat × List OutBucket × Conn σ ν) :=
  match b with
  | .file _ => do
    apAssert (bytes.length ≤ bufRemain)
    let (rv, n, net) := E.fileRead c.net bytes
    if rv ≠ .success ∧ rv ≠ .eof then return (rv, 0, .file bytes :: rest, { c with net })
    else return (rv, n, rest,
      { c with net, fout := { c.fout with foutBufPlain := c.fout.foutBufPlain ++ bytes.take n } })
  | _ =>
    if c.fout.foutBufPlain.length = 0 ∧
        (c.fout.foutBufPlainSize ≤ bytes.length ∨ L.prefWriteSize < bytes.length) then
      match E.write c.session bytes with
      | (.err code, wlen, session) =>
        return (tlsUtilRustlsError code, wlen, b.withBytes bytes :: rest, { c with session })
      | (.ok, wlen, session) =>
        let fout := { c.fout with foutBytesInRustls := c.fout.foutBytesInRustls + wlen }
        return (.success, wlen,
          if bytes.length ≤ wlen then rest else b.withBytes (bytes.drop wlen) :: rest,
          { c with session, fout })
    else do
      apAssert (bytes.length ≤ bufRemain)
      return (.success, bytes.length, rest,
        { c with fout := { c.fout with foutBufPlain := c.fout.foutBufPlain ++ bytes } })

/-- `fout_plain_buf_append` on the head of `b :: rest`: status, `*plen`, brigade, connection. -/
def foutPlainBufAppend (c : Conn σ ν) (b : OutBucket) (rest : List OutBucket) :
    Except Fault (AprStatus × Nat × List OutBucket × Conn σ ν) :=
  match b.length with
  | none => .error .assertFailed
  | some dlen => do
    let (rv, c) ← foutMakeRoom E c
    if rv ≠ .success then return (rv, 0, b :: rest, c)
    let bufRemain := c.fout.foutBufPlainSize - c.fout.foutBufPlain.length
    let (bytes, rest) := bucketSplit b dlen bufRemain rest
    foutAppendBytes L E c b bytes rest bufRemain

variable (fuel : Nat)

/-- The body of the loop of `filter_conn_output` on one bucket, up to the high-water checks. -/
def outputBucket (c : Conn σ ν) (b : OutBucket) (rest : List OutBucket) :
    Except Fault (AprStatus × Bool × List OutBucket × Conn σ ν) :=
  if b.isMetadata then
    let c := if b = .eoc then
      { c with session := E.sendCloseNotify c.session, state := .notified } else c
    let (rv, fout, session) := foutPlainBufToRustls E.toServerSession c.fout c.session
    let c := { c with fout, session }
    if rv ≠ .success then .ok (rv, false, b :: rest, c)
    else do
      let (rv, fout, session) ← brigadeTlsFromRustls L E.toServerSession fuel c.fout c.session
      let c := { c with fout, session }
      if rv ≠ .success then return (rv, false, b :: rest, c)
      else return (.success, false, rest,
        { c with fout := { c.fout with foutTlsBb := c.fout.foutTlsBb ++ [b] } })
  else
    match b with
    | .pipe chunks last =>
      let (rv, bytes, follow) := pipeRead chunks last
      if rv = .eof then .ok (.success, true, rest, c)
      else if rv ≠ .success then .ok (rv, false, b :: rest, c)
      else do
        let (rv, _, bb, c) ← foutPlainBufAppend L E c (.heap bytes) (follow ++ rest)
        return (rv, false, bb, c)
    | b => do
      let (rv, _, bb, c) ← foutPlainBufAppend L E c b rest
      return (rv, false, bb, c)

/-- The high-water checks at the end of the loop body of `filter_conn_output`. -/
def outputCheck (c : Conn σ ν) : Except Fault (AprStatus × Conn σ ν) := do
  let (rv, c) ←
    (if c.fout.foutMaxInRustls ≤ c.fout.foutBytesInRustls then do
      let (rv, fout, session) ← brigadeTlsFromRustls L E.toServerSession fuel c.fout c.session
      pure (rv, { c with fout, session })
    else pure (.success, c))
  if rv ≠ .success then return (rv, c)
  else if c.fout.foutMaxInRustls ≤ c.fout.foutBytesInTlsBb then writeAllTlsFromRustls L E fuel c
  else return (.success, c)

end

/-- The `while (!APR_BRIGADE_EMPTY(bb))` loop of `filter_conn_output`. -/
def outputLoop (L : Limits) (E : Env σ ν) :
    Nat → List OutBucket → Conn σ ν → Except Fault (AprStatus × List OutBucket × Conn σ ν)
  | 0, _, _ => .error .outOfFuel
  | _ + 1, [], c => .ok (.success, [], c)
  | fuel + 1, b :: rest, c => do
    let (rv, cont, bb, c) ← outputBucket L E fuel c b rest
    if rv ≠ .success then return (rv, bb, c)
    else if cont then outputLoop L E fuel bb c
    else do
      let (rv, c) ← outputCheck L E fuel c
      if rv ≠ .success then return (rv, bb, c)
      else outputLoop L E fuel bb c

/-- `filter_conn_output`: the status and what is left of the caller's brigade. -/
def filterConnOutput (L : Limits) (E : Env σ ν) (fuel : Nat) (c : Conn σ ν)
    (bb : List OutBucket) : Except Fault (AprStatus × List OutBucket × Conn σ ν) :=
  if c.aborted then .ok (.econnaborted, [], c)
  else if c.state = .done then
    let (rv, ab, net) := E.passBrigade c.net bb
    .ok (rv, [], { c with net, aborted := c.aborted || ab })
  else do
    let (rv, bb, c) ← outputLoop L E fuel bb c
    if rv ≠ .success then return (rv, bb, c)
    else
      let (rv, c) ← writeAllTlsFromRustls L E fuel c
      return (rv, bb, c)

/-- The output filter keeps the phase or enters `NOTIFIED` on an EOC bucket, and keeps `c->aborted`. -/
structure OutputEffect (bb : List OutBucket) (c c' : Conn σ ν) : Prop where
  aborted_mono : c.aborted = true → c'.aborted = true
  state : c'.state = c.state ∨ (c'.state = .notified ∧ .eoc ∈ bb)

theorem OutputEffect.of_frame (hs : c'.state = c.state) (ha : c.aborted = true → c'.aborted = true) :
    OutputEffect bb c c' := ⟨ha, .inl hs⟩

theorem OutputEffect.trans (h₁ : OutputEffect bb c c₁) (h₂ : OutputEffect bb₁ c₁ c₂)
    (hm : .eoc ∈ bb₁ → .eoc ∈ bb) : OutputEffect bb c c₂ where
  aborted_mono := h₂.aborted_mono ∘ h₁.aborted_mono
  state := by
    rcases h₂.state with hs | ⟨hs, he⟩
    · rw [hs]
      exact h₁.state
    · exact .inr ⟨hs, hm he⟩

theorem CallEffect.of_output (h : OutputEffect bb c c') (hd : c.state ≠ .done) :
    CallEffect (.output bb) c c' where
  move := by
    rcases h.state with hs | ⟨hs, he⟩
    · exact hs ▸ .stay
    · exact hs ▸ .notify he hd
  aborted_mono := h.aborted_mono
  done_aborted hd' := by
    rcases h.state with hs | ⟨hs, -⟩
    · exact .inl (hs ▸ hd')
    · rw [hs] at hd'; cases hd'

section Frame
variable {L : Limits} {E : Env σ ν} {fuel : Nat}

theorem foutMakeRoom_frame (h : foutMakeRoom E c = .ok (rv, c')) :
    c'.state = c.state ∧ c'.aborted = c.aborted := by
  unfold foutMakeRoom at h
  split_ifs at h
  · split at h
    dsimp only at h
    split_ifs at h <;> obtain ⟨-, -, h⟩ := bind_eq_ok.mp h <;> cases h <;> exact ⟨rfl, rfl⟩
  · cases h
    exact ⟨rfl, rfl⟩

theorem eoc_mem_bucketSplit (h : .eoc ∈ (bucketSplit b dlen bufRemain rest).2) :
    .eoc ∈ b :: rest := by
  unfold bucketSplit at h
  split_ifs at h <;> simp_all

theorem foutAppendBytes_frame (h : foutAppendBytes L E c b bytes rest bufRemain = .ok (rv, n, bb, c')) :
    c'.state = c.state ∧ c'.aborted = c.aborted ∧ (.eoc ∈ bb → .eoc ∈ b :: rest) := by
  unfold foutAppendBytes at h
  split at h
  · obtain ⟨-, -, h⟩ := bind_eq_ok.mp h
    split at h
    split_ifs at h <;> cases h <;> simp
  · split_ifs at h
    · split at h <;> cases h <;> (try split_ifs) <;> simp_all
    · obtain ⟨-, -, h⟩ := bind_eq_ok.mp h
      cases h
      exact ⟨rfl, rfl, List.mem_cons_of_mem _⟩

theorem foutPlainBufAppend_frame (h : foutPlainBufAppend L E c b rest = .ok (rv, n, bb, c')) :
    c'.state = c.state ∧ c'.aborted = c.aborted ∧ (.eoc ∈ bb → .eoc ∈ b :: rest) := by
  unfold foutPlainBufAppend at h
  split at h
  · cases h
  obtain ⟨⟨rv₁, c₁⟩, h₁, h⟩ := bind_eq_ok.mp h
  obtain ⟨hs, ha⟩ := foutMakeRoom_frame h₁
  dsimp only at h
  split_ifs at h
  · cases h
    exact ⟨hs, ha, id⟩
  obtain ⟨-, -, h⟩ := bind_eq_ok.mp h
  obtain ⟨hs', ha', hm⟩ := foutAppendBytes_frame h
  refine ⟨hs'.trans hs, ha'.trans ha, fun he => ?_⟩
  rcases List.mem_cons.mp (hm he) with hb | hr
  · exact hb ▸ List.mem_cons_self _ _
  · exact eoc_mem_bucketSplit hr

theorem outputBucket_frame (h : outputBucket L E fuel c b rest = .ok (rv, cont, bb, c')) :
    OutputEffect (b :: rest) c c' ∧ (.eoc ∈ bb → .eoc ∈ b :: rest) := by
  unfold outputBucket at h
  by_cases hmeta : b.isMetadata
  · rw [if_pos hmeta] at h
    have e₀ : OutputEffect (b :: rest) c (if b = .eoc then
        { c with session := E.sendCloseNotify c.session, state := .notified } else c) := by
      split_ifs with he
      · exact ⟨id, .inr ⟨rfl, he ▸ List.mem_cons_self _ _⟩⟩
      · exact .of_frame rfl id
    generalize (if b = .eoc then
        { c with session := E.sendCloseNotify c.session, state := .notified } else c) = c₀ at h e₀
    have e : ∀ fout session, OutputEffect (b :: rest) c { c₀ with fout, session } :=
      fun _ _ => e₀.trans (.of_frame rfl id) id
    dsimp only at h
    split_ifs at h
    · cases h
      exact ⟨e _ _, id⟩
    · obtain ⟨_, -, h⟩ := bind_eq_ok.mp h
      split_ifs at h <;> cases h
      · exact ⟨e _ _, id⟩
      · exact ⟨e _ _, List.mem_cons_of_mem _⟩
  · rw [if_neg hmeta] at h
    split at h
    · dsimp only at h
      split_ifs at h
      · cases h
        exact ⟨.of_frame rfl id, List.mem_cons_of_mem _⟩
      · cases h
        exact ⟨.of_frame rfl id, id⟩
      · obtain ⟨⟨rv₁, n₁, bb₁, c₁⟩, h₁, h⟩ := bind_eq_ok.mp h
        cases h
        obtain ⟨hs, ha, hm⟩ := foutPlainBufAppend_frame h₁
        refine ⟨.of_frame hs (ha ▸ id), fun he => List.mem_cons_of_mem _ ?_⟩
        simpa [eoc_not_mem_pipeRead] using hm he
    · obtain ⟨⟨rv₁, n₁, bb₁, c₁⟩, h₁, h⟩ := bind_eq_ok.mp h
      cases h
      obtain ⟨hs, ha, hm⟩ := foutPlainBufAppend_frame h₁
      exact ⟨.of_frame hs (ha ▸ id), hm⟩

theorem outputCheck_frame (h : outputCheck L E fuel c = .ok (rv, c')) :
    c'.state = c.state ∧ (c.aborted = true → c'.aborted = true) := by
  obtain ⟨⟨rv₁, c₁⟩, h₁, h⟩ := bind_eq_ok.mp h
  have f₁ : c₁.state = c.state ∧ c₁.aborted = c.aborted := by
    split at h₁
    · obtain ⟨_, -, h₁⟩ := bind_eq_ok.mp h₁
      cases h₁
      exact ⟨rfl, rfl⟩
    · cases h₁
      exact ⟨rfl, rfl⟩
  dsimp only at h
  split_ifs at h
  · cases h
    exact ⟨f₁.1, f₁.2 ▸ id⟩
  · exact (writeAllTlsFromRustls_frame h).imp (·.trans f₁.1) (· ∘ (f₁.2 ▸ id))
  · cases h
    exact ⟨f₁.1, f₁.2 ▸ id⟩

theorem outputLoop_effect (h : outputLoop L E fuel bb c = .ok (rv, bb', c')) :
    OutputEffect bb c c' := by
  induction fuel generalizing bb c with
  | zero => cases h
  | succ fuel ih =>
    match bb, h with
    | [], h =>
      cases h
      exact .of_frame rfl id
    | b :: rest, h =>
      rw [outputLoop] at h
      obtain ⟨⟨rv₁, cont, bb₁, c₁⟩, h₁, h⟩ := bind_eq_ok.mp h
      obtain ⟨e₁, hm⟩ := outputBucket_frame h₁
      dsimp only at h
      split_ifs at h
      · cases h
        exact e₁
      · exact e₁.trans (ih h) hm
      · obtain ⟨⟨rv₂, c₂⟩, h₂, h⟩ := bind_eq_ok.mp h
        have e₂ := e₁.trans (.of_frame (outputCheck_frame h₂).1 (outputCheck_frame h₂).2) id
        dsimp only at h
        split_ifs at h
        · cases h
          exact e₂
        · exact e₂.trans (ih h) hm

theorem filterConnOutput_effect (h : filterConnOutput L E fuel c bb = .ok (rv, bb', c')) :
    CallEffect (.output bb) c c' := by
  unfold filterConnOutput at h
  split_ifs at h with ha hd
  · cases h
    exact .refl _ _
  · cases h
    exact ⟨.stay, fun h => by simp [h], fun _ => .inl hd⟩
  · obtain ⟨⟨rv₁, bb₁, c₁⟩, h₁, h⟩ := bind_eq_ok.mp h
    have e₁ := outputLoop_effect h₁
    dsimp only at h
    split_ifs at h
    · cases h
      exact .of_output e₁ hd
    · obtain ⟨⟨rv₂, c₂⟩, h₂, h⟩ := bind_eq_ok.mp h
      cases h
      obtain ⟨hs, ha'⟩ := writeAllTlsFromRustls_frame h₂
      exact .of_output (e₁.trans (.of_frame hs ha') id) hd

end Frame

/-- `fout_buf_plain_size` is positive and `fout_buf_plain_len <= fout_buf_plain_size`. -/
def BufPlainBounded (fout : FoutCtx) : Prop :=
  0 < fout.foutBufPlainSize ∧ fout.foutBufPlain.length ≤ fout.foutBufPlainSize

/-- What the output filter keeps: the input side and the buffer size; the session only sends. -/
structure OutputFrame (S : ServerSession σ) (c c' : Conn σ ν) : Prop where
  fin : c'.fin = c.fin
  bufPlainSize : c'.fout.foutBufPlainSize = c.fout.foutBufPlainSize
  bufPlain_le : c'.fout.foutBufPlain.length ≤ c'.fout.foutBufPlainSize
  sends : S.Sends c.session c'.session

theorem OutputFrame.trans (h₁ : OutputFrame S c c₁) (h₂ : OutputFrame S c₁ c₂) :
    OutputFrame S c c₂ :=
  ⟨h₂.fin.trans h₁.fin, h₂.bufPlainSize.trans h₁.bufPlainSize, h₂.bufPlain_le,
    h₁.sends.trans h₂.sends⟩

theorem OutputFrame.bounded (h : OutputFrame S c c') (hb : BufPlainBounded c.fout) :
    BufPlainBounded c'.fout :=
  ⟨h.bufPlainSize ▸ hb.1, h.bufPlain_le⟩

theorem SendFrame.outputFrame (h : SendFrame S c c') (hb : BufPlainBounded c.fout) :
    OutputFrame S c c' :=
  ⟨h.fin, h.bufPlainSize, by rw [h.bufPlain, h.bufPlainSize]; exact hb.2, h.sends⟩

theorem OutputFrame.refl (hb : BufPlainBounded c.fout) (hf : c'.fin = c.fin) (hfout : c'.fout = c.fout)
    (hs : c'.session = c.session) : OutputFrame S c c' :=
  ⟨hf, by rw [hfout], by rw [hfout]; exact hb.2, hs ▸ .refl⟩

theorem bucketSplit_length (hl : b.length = some dlen) :
    (bucketSplit b dlen bufRemain rest).1.length ≤ bufRemain := by
  have : b.bytes.length = dlen := by cases b <;> simp_all [OutBucket.length, OutBucket.bytes]
  unfold bucketSplit
  split_ifs
  · exact List.length_take_le _ _
  · exact this ▸ Nat.le_of_not_lt ‹_›

section Bounds
variable {L : Limits} {E : Env σ ν} {fuel : Nat}
open ServerSession

theorem foutPlainBufToRustls_spec {S : ServerSession σ}
    (h : foutPlainBufToRustls S fout s = (rv, fout', s')) :
    fout'.foutBufPlain.length ≤ fout.foutBufPlain.length ∧
      (rv = .success → fout'.foutBufPlain.length < fout.foutBufPlain.length ∨ fout.foutBufPlain = []) ∧
      fout'.foutBufPlainSize = fout.foutBufPlainSize ∧ S.Sends s s' := by
  unfold foutPlainBufToRustls at h
  split_ifs at h with hl
  · split at h
    next heq =>
      cases h
      exact ⟨le_rfl, fun h => by simp [tlsUtilRustlsError] at h, rfl, Sends.refl.write_eq heq⟩
    next heq =>
      dsimp only at h
      split_ifs at h <;> cases h
      · exact ⟨Nat.zero_le _, fun _ => .inl hl, rfl, Sends.refl.write_eq heq⟩
      · exact ⟨le_rfl, nofun, rfl, Sends.refl.write_eq heq⟩
      · exact ⟨by simp, fun _ => .inl (by simp; omega), rfl, Sends.refl.write_eq heq⟩
  · cases h
    exact ⟨le_rfl, fun _ => .inr (List.length_eq_zero.mp (by omega)), rfl, .refl⟩

theorem foutMakeRoom_safe (hb : BufPlainBounded c.fout) :
    AssertSafe (fun r => OutputFrame E.toServerSession c r.2) (foutMakeRoom E c) := by
  unfold foutMakeRoom
  split_ifs with h0
  · rcases h : foutPlainBufToRustls E.toServerSession c.fout c.session with ⟨rv, fout', s'⟩
    obtain ⟨hle, hsucc, hsize, hs⟩ := foutPlainBufToRustls_spec h
    have frame : OutputFrame E.toServerSession c { c with fout := fout', session := s' } :=
      ⟨rfl, hsize, by simp only [hsize]; exact hle.trans hb.2, hs⟩
    dsimp only
    split_ifs with hr
    · refine (apAssert_safe ?_).bind fun _ _ => frame
      have := hb
      unfold BufPlainBounded at this
      rcases hsucc hr with hlt | he
      · simp only [hsize]; omega
      · simp [he] at h0; omega
    · exact frame
  · exact .refl hb rfl rfl rfl

theorem foutAppendBytes_safe (hb : BufPlainBounded c.fout)
    (hbytes : bytes.length ≤ c.fout.foutBufPlainSize - c.fout.foutBufPlain.length) :
    AssertSafe (fun r => OutputFrame E.toServerSession c r.2.2.2)
      (foutAppendBytes L E c b bytes rest (c.fout.foutBufPlainSize - c.fout.foutBufPlain.length)) := by
  have hsum : c.fout.foutBufPlain.length + bytes.length ≤ c.fout.foutBufPlainSize := by
    have := hb.2; omega
  unfold foutAppendBytes
  split
  · refine (apAssert_safe hbytes).bind fun _ _ => ?_
    have hn := E.fileRead_le c.net bytes
    rcases h : E.fileRead c.net bytes with ⟨rv, n, net⟩
    rw [h] at hn
    dsimp only
    split_ifs
    · exact .refl hb rfl rfl rfl
    · exact ⟨rfl, rfl, by simp; omega, .refl⟩
  · split_ifs
    · split
      next heq => exact ⟨rfl, rfl, hb.2, Sends.refl.write_eq heq⟩
      next heq => exact ⟨rfl, rfl, hb.2, Sends.refl.write_eq heq⟩
    · exact (apAssert_safe hbytes).bind fun _ _ => ⟨rfl, rfl, by simp; omega, .refl⟩

theorem foutPlainBufAppend_safe (hb : BufPlainBounded c.fout) (hl : b.length = some dlen) :
    AssertSafe (fun r => OutputFrame E.toServerSession c r.2.2.2) (foutPlainBufAppend L E c b rest) := by
  unfold foutPlainBufAppend
  rw [hl]
  refine (foutMakeRoom_safe hb).bind fun ⟨rv, c₁⟩ f₁ => ?_
  dsimp only
  split_ifs
  · exact f₁
  · exact (foutAppendBytes_safe (f₁.bounded hb) (bucketSplit_length hl)).imp fun _ => f₁.trans

theorem outputBucket_safe (hb : BufPlainBounded c.fout) :
    AssertSafe (fun r => OutputFrame E.toServerSession c r.2.2.2) (outputBucket L E fuel c b rest) := by
  unfold outputBucket
  by_cases hmeta : b.isMetadata
  · rw [if_pos hmeta]
    have h₀ : ∀ c₀ : Conn σ ν, (if b = .eoc then
        { c with session := E.sendCloseNotify c.session, state := .notified } else c) = c₀ →
        c₀.fin = c.fin ∧ c₀.fout = c.fout ∧ E.Sends c.session c₀.session := by
      rintro _ rfl
      split_ifs
      · exact ⟨rfl, rfl, Sends.refl.sendCloseNotify⟩
      · exact ⟨rfl, rfl, .refl⟩
    dsimp only
    generalize hc₀ : (if b = .eoc then
        { c with session := E.sendCloseNotify c.session, state := .notified } else c) = c₀
    obtain ⟨hf, hfout, hs⟩ := h₀ c₀ hc₀
    rcases h : foutPlainBufToRustls E.toServerSession c₀.fout c₀.session with ⟨rv, fout', s'⟩
    obtain ⟨hle, -, hsize, hs'⟩ := foutPlainBufToRustls_spec h
    rw [hfout] at hle hsize
    have f₁ : OutputFrame E.toServerSession c { c₀ with fout := fout', session := s' } :=
      ⟨hf, hsize, by rw [hsize]; exact hle.trans hb.2, hs.trans hs'⟩
    dsimp only
    split_ifs
    · exact f₁
    · refine (brigadeTlsFromRustls_safe _ _).bind fun ⟨rv₂, fout₂, s₂⟩ ⟨h₁, h₂, h₃⟩ => ?_
      have f₂ : OutputFrame E.toServerSession c { c₀ with fout := fout₂, session := s₂ } :=
        ⟨hf, h₂.trans hsize, by rw [h₁, h₂]; exact f₁.bufPlain_le, f₁.sends.trans h₃⟩
      dsimp only
      split_ifs
      · exact f₂
      · exact ⟨hf, f₂.bufPlainSize, f₂.bufPlain_le, f₂.sends⟩
  · rw [if_neg hmeta]
    split
    · dsimp only
      split_ifs
      · exact .refl hb rfl rfl rfl
      · exact .refl hb rfl rfl rfl
      · exact (foutPlainBufAppend_safe hb (OutBucket.length.eq_1 _)).bind fun _ f => f
    · obtain ⟨dlen, hl⟩ : ∃ dlen, b.length = some dlen := by
        cases b <;> simp_all [OutBucket.length]
      exact (foutPlainBufAppend_safe hb hl).bind fun _ f => f

theorem outputCheck_safe (hb : BufPlainBounded c.fout) :
    AssertSafe (fun r => OutputFrame E.toServerSession c r.2) (outputCheck L E fuel c) := by
  unfold outputCheck
  refine AssertSafe.bind (?_ : AssertSafe (fun r => OutputFrame E.toServerSession c r.2) _)
    fun ⟨rv, c₁⟩ f₁ => ?_
  · split
    · exact (brigadeTlsFromRustls_safe c.fout c.session).bind fun _ ⟨h₁, h₂, h₃⟩ =>
        ⟨rfl, h₂, by rw [h₁, h₂]; exact hb.2, h₃⟩
    · exact .refl hb rfl rfl rfl
  · dsimp only
    split_ifs
    · exact f₁
    · exact (writeAllTlsFromRustls_safe c₁).imp fun _ f₂ => f₁.trans (f₂.outputFrame (f₁.bounded hb))
    · exact f₁

theorem outputLoop_safe (hb : BufPlainBounded c.fout) :
    AssertSafe (fun r => OutputFrame E.toServerSession c r.2.2) (outputLoop L E fuel bb c) := by
  induction fuel generalizing bb c with
  | zero => exact nofun
  | succ fuel ih =>
    cases bb with
    | nil => exact .refl hb rfl rfl rfl
    | cons b rest =>
      rw [outputLoop]
      refine (outputBucket_safe hb).bind fun ⟨rv, cont, bb₁, c₁⟩ f₁ => ?_
      have hb₁ := f₁.bounded hb
      dsimp only
      split_ifs
      · exact f₁
      · exact (ih hb₁).imp fun _ => f₁.trans
      · refine (outputCheck_safe hb₁).bind fun ⟨rv₂, c₂⟩ f₂ => ?_
        dsimp only
        split_ifs
        · exact f₁.trans f₂
        · exact (ih (f₂.bounded hb₁)).imp fun _ => (f₁.trans f₂).trans

theorem filterConnOutput_safe (hb : BufPlainBounded c.fout) :
    AssertSafe (fun r => OutputFrame E.toServerSession c r.2.2) (filterConnOutput L E fuel c bb) := by
  unfold filterConnOutput
  split_ifs
  · exact .refl hb rfl rfl rfl
  · split
    exact .refl hb rfl rfl rfl
  · refine (outputLoop_safe hb).bind fun ⟨rv, bb₁, c₁⟩ f₁ => ?_
    dsimp only
    split_ifs
    · exact f₁
    · exact (writeAllTlsFromRustls_safe c₁).bind fun _ f₂ => f₁.trans (f₂.outputFrame (f₁.bounded hb))

end Bounds

theorem outputLoop_stalls {E : Env σ ν} (hw : ∀ s data, E.write s data = (.ok, 0, s))
    (hne : bytes ≠ []) (c : Conn σ ν)
    (hb : c.fout.foutBufPlainSize = bytes.length) (hbuf : c.fout.foutBufPlain = [])
    (hin : c.fout.foutBytesInRustls < c.fout.foutMaxInRustls)
    (htls : c.fout.foutBytesInTlsBb < c.fout.foutMaxInRustls) :
    outputLoop L E fuel (.heap bytes :: rest) c = .error .outOfFuel := by
  induction fuel generalizing c with
  | zero => rfl
  | succ fuel ih =>
    have h0 : bytes.length ≠ 0 := by simpa using hne
    have h1 : ¬ c.fout.foutMaxInRustls ≤ c.fout.foutBytesInRustls := by omega
    have h2 : ¬ c.fout.foutMaxInRustls ≤ c.fout.foutBytesInTlsBb := by omega
    simp [outputLoop, outputBucket, foutPlainBufAppend, foutMakeRoom, bucketSplit,
      foutAppendBytes, outputCheck, OutBucket.isMetadata,
      OutBucket.length, OutBucket.bytes, OutBucket.withBytes, hb, hbuf, h0, h1, h2, hw, hne]
    exact ih _ rfl rfl hin htls

/-- A session that takes no plaintext keeps `filter_conn_output` looping for every fuel. -/
theorem filterConnOutput_stalled_session (L : Limits) (fuel : Nat) :
    filterConnOutput L stallEnv fuel { tlsFilterConnInit L () () with state := .traffic }
      [.heap (List.replicate (2 * L.prefWriteSize) 0)] = .error .outOfFuel := by
  have hP := L.prefWriteSize_pos
  have hne : List.replicate (2 * L.prefWriteSize) (0 : UInt8) ≠ [] := by simp; omega
  simp only [filterConnOutput, tlsFilterConnInit, Bool.false_eq_true, if_false, reduceCtorEq]
  rw [outputLoop_stalls (fun _ _ => rfl) hne _ (by simp) rfl (by simp; omega) (by simp; omega)]
  rfl

/-- A session that takes one byte of each write, over filters below that keep what they are passed. -/
def trickleEnv : Env (List UInt8) (List OutBucket) where
  isHandshaking _ := false
  wantsRead _ := false
  wantsWrite s := !s.isEmpty
  readTls s _ := (.ok, 0, s)
  processNewPackets s := (.ok, s)
  read s _ := (.ok, [], s)
  write s data := (.ok, min 1 data.length, s ++ data.take 1)
  writeTls s n := (.ok, s.take n, s.drop n)
  sendCloseNotify s := s
  readTls_le _ _ := Nat.zero_le _
  read_le _ _ := Nat.zero_le _
  write_le _ _ := Nat.min_le_right _ _
  writeTls_le s n := List.length_take_le n s
  getBrigade n _ _ := (.eof, [], n)
  passBrigade n bb := (.success, false, n ++ bb)
  fileRead n bytes := (.success, bytes.length, n)
  fileRead_le _ _ := le_refl _
  clientHelloSeen _ := false
  connInitServer s := (.success, s)
  connPostHandshake _ := .success

/-- A FLUSH reaches the network while a byte written before it is still buffered. -/
theorem filterConnOutput_flush_overtakes (L : Limits) :
    ∃ c', filterConnOutput L trickleEnv 4 { tlsFilterConnInit L [] [] with state := .traffic }
      [.heap [1], .heap [2], .flush] = .ok (.success, [], c') ∧
      c'.net = [.heap [1], .flush] ∧ c'.fout.foutBufPlain = [2] := by
  have hP := L.prefWriteSize_pos
  have ht := tlsWriteSize_pos L Nat.one_pos
  have hw : [(1 : UInt8)].take (tlsWriteSize L 1) = [1] := List.take_of_length_le ht
  have hd : [(1 : UInt8)].drop (tlsWriteSize L 1) = [] := List.drop_eq_nil_of_le ht
  have hm : min (tlsWriteSize L 1) 1 = 1 := Nat.min_eq_right ht
  have ht0 : ¬ tlsWriteSize L 1 = 0 := by omega
  have ha1 : 1 ≤ 2 * L.prefWriteSize := by omega
  have ha2 : 1 ≤ 2 * L.prefWriteSize - 1 := by omega
  have h1 : ¬ 2 * L.prefWriteSize - 1 = 0 := by omega
  have h2 : ¬ 2 * L.prefWriteSize ≤ 1 := by omega
  have h3 : ¬ 2 * (2 * L.prefWriteSize) ≤ 1 := by omega
  have h4 : ¬ 2 * L.prefWriteSize - 1 < 1 := by omega
  have h5 : ¬ 2 * L.prefWriteSize = 0 := by omega
  have h6 : ¬ 2 * L.prefWriteSize < 1 := by omega
  have h7 : ¬ 2 * (2 * L.prefWriteSize) = 0 := by omega
  have h8 : ¬ L.prefWriteSize < 1 := by omega
  have h9 : ¬ 4 * L.prefWriteSize ≤ 0 := by omega
  have h10 : ¬ 4 * L.prefWriteSize ≤ 1 := by omega
  simp [filterConnOutput, outputLoop, outputBucket, foutPlainBufAppend, foutMakeRoom,
    bucketSplit, foutAppendBytes, outputCheck,
    foutPlainBufToRustls, brigadeTlsFromRustls, brigadeTlsLoop, writeAllTlsFromRustls,
    tlsFilterConnInit, OutBucket.isMetadata, OutBucket.length, OutBucket.bytes, apAssert,
    trickleEnv, hP.ne', h1, h2, h3, h4, h5, h6, h7, h8, h9, h10, hw, hd, hm, ht0, ha1, ha2]

/-- A call the filters make on a session, as `loggingEnv` records it. -/
inductive SessionCall
  | write (data : List UInt8)
  | sendCloseNotify
  deriving DecidableEq, Repr

/-- A session that takes all it is offered, sends nothing, and records the calls it receives. -/
def loggingEnv : Env (List SessionCall) Unit where
  isHandshaking _ := false
  wantsRead _ := false
  wantsWrite _ := false
  readTls s _ := (.ok, 0, s)
  processNewPackets s := (.ok, s)
  read s _ := (.ok, [], s)
  write s data := (.ok, data.length, s ++ [.write data])
  writeTls s _ := (.ok, [], s)
  sendCloseNotify s := s ++ [.sendCloseNotify]
  readTls_le _ _ := Nat.zero_le _
  read_le _ _ := Nat.zero_le _
  write_le _ _ := le_refl _
  writeTls_le _ _ := Nat.zero_le _
  getBrigade n _ _ := (.eof, [], n)
  passBrigade n _ := (.success, false, n)
  fileRead n bytes := (.success, bytes.length, n)
  fileRead_le _ _ := le_refl _
  clientHelloSeen _ := false
  connInitServer s := (.success, s)
  connPostHandshake _ := .success

/-- A data byte and EOC in one brigade: the close-notify goes to the session before the byte. -/
theorem filterConnOutput_close_notify_first (L : Limits) :
    ∃ c', filterConnOutput L loggingEnv 3 { tlsFilterConnInit L [] () with state := .traffic }
      [.heap [1], .eoc] = .ok (.success, [], c') ∧ c'.session = [.sendCloseNotify, .write [1]] := by
  have hP := L.prefWriteSize_pos
  have h2 : ¬ 2 * L.prefWriteSize ≤ 1 := by omega
  have h5 : ¬ 2 * L.prefWriteSize = 0 := by omega
  have h6 : ¬ 2 * L.prefWriteSize < 1 := by omega
  have h8 : ¬ L.prefWriteSize < 1 := by omega
  have h9 : ¬ 4 * L.prefWriteSize ≤ 0 := by omega
  have h10 : ¬ 4 * L.prefWriteSize ≤ 1 := by omega
  have ha1 : 1 ≤ 2 * L.prefWriteSize := by omega
  simp [filterConnOutput, outputLoop, outputBucket, foutPlainBufAppend, foutMakeRoom,
    bucketSplit, foutAppendBytes, outputCheck,
    foutPlainBufToRustls, brigadeTlsFromRustls, writeAllTlsFromRustls,
    tlsFilterConnInit, OutBucket.isMetadata, OutBucket.length, OutBucket.bytes, apAssert,
    loggingEnv, h2, h5, h6, h8, h9, h10, ha1]

end ModTls
