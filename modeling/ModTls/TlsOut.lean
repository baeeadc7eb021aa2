import ModTls.Phase

namespace ModTls
set_option autoImplicit true

/-- The buffer size `brigade_tls_from_rustls` offers `rustls_server_session_write_tls`. -/
def tlsWriteSize (L : Limits) (inRustls : Nat) : Nat :=
  if inRustls < L.prefTlsWriteSize / 2 then inRustls + L.recExtra
  else if inRustls ≤ L.maxBucketSize then
    let chunks := inRustls / L.prefWriteSize
    (if chunks = 0 then 1 else chunks) * L.prefTlsWriteSize
  else L.maxBucketSize

theorem tlsWriteSize_pos (L : Limits) (h : 0 < inRustls) : 0 < tlsWriteSize L inRustls := by
  have := L.prefTlsWriteSize_pos
  have := L.maxBucketSize_pos
  unfold tlsWriteSize
  dsimp only
  split_ifs with h1 h2 h3 <;> first | omega | exact Nat.mul_pos (Nat.pos_of_ne_zero h3) ‹_›

/-- The do-while loop of `brigade_tls_from_rustls`. -/
def brigadeTlsLoop (L : Limits) (S : ServerSession σ) :
    Nat → FoutCtx → σ → Except Fault (RustlsResult × FoutCtx × σ)
  | 0, _, _ => .error .outOfFuel
  | fuel + 1, fout, session =>
    match S.writeTls session (tlsWriteSize L fout.foutBytesInRustls) with
    | (.err code, _, session) => .ok (.err code, fout, session)
    | (.ok, out, session) =>
      let fout := { fout with
        foutTlsBb := fout.foutTlsBb ++ [.heap out]
        foutBytesInTlsBb := fout.foutBytesInTlsBb + out.length }
      if S.wantsWrite session then brigadeTlsLoop L S fuel fout session
      else .ok (.ok, fout, session)

/-- `brigade_tls_from_rustls`: move what the session has to send into `fout_tls_bb`. -/
def brigadeTlsFromRustls (L : Limits) (S : ServerSession σ) (fuel : Nat) (fout : FoutCtx)
    (session : σ) : Except Fault (AprStatus × FoutCtx × σ) :=
  if S.wantsWrite session then do
    match ← brigadeTlsLoop L S fuel fout session with
    | (.ok, fout, session) => return (.success, { fout with foutBytesInRustls := 0 }, session)
    | (.err code, fout, session) => return (tlsUtilRustlsError code, fout, session)
  else .ok (.success, fout, session)

theorem brigadeTlsLoop_safe {S : ServerSession σ} (fout : FoutCtx) (s : σ) :
    AssertSafe (fun r => r.2.1.foutBufPlain = fout.foutBufPlain ∧
      r.2.1.foutBufPlainSize = fout.foutBufPlainSize ∧ S.Sends s r.2.2)
      (brigadeTlsLoop L S fuel fout s) := by
  induction fuel generalizing fout s with
  | zero => exact nofun
  | succ fuel ih =>
    rw [brigadeTlsLoop]
    split
    next heq => exact ⟨rfl, rfl, ServerSession.Sends.refl.writeTls_eq heq⟩
    next heq =>
      dsimp only
      split
      · exact (ih _ _).imp fun _ h => ⟨h.1, h.2.1, (ServerSession.Sends.refl.writeTls_eq heq).trans h.2.2⟩
      · exact ⟨rfl, rfl, ServerSession.Sends.refl.writeTls_eq heq⟩

theorem brigadeTlsFromRustls_safe {S : ServerSession σ} (fout : FoutCtx) (s : σ) :
    AssertSafe (fun r => r.2.1.foutBufPlain = fout.foutBufPlain ∧
      r.2.1.foutBufPlainSize = fout.foutBufPlainSize ∧ S.Sends s r.2.2)
      (brigadeTlsFromRustls L S fuel fout s) := by
  unfold brigadeTlsFromRustls
  split
  · refine (brigadeTlsLoop_safe fout s).bind ?_
    rintro ⟨_ | _, fout', s'⟩ h <;> exact h
  · exact ⟨rfl, rfl, .refl⟩

/-- What sending keeps: the input side and the plaintext buffer; the session moves only by sending. -/
structure SendFrame (S : ServerSession σ) (c c' : Conn σ ν) : Prop where
  fin : c'.fin = c.fin
  bufPlain : c'.fout.foutBufPlain = c.fout.foutBufPlain
  bufPlainSize : c'.fout.foutBufPlainSize = c.fout.foutBufPlainSize
  sends : S.Sends c.session c'.session

theorem SendFrame.trans (h₁ : SendFrame S c c₁) (h₂ : SendFrame S c₁ c₂) : SendFrame S c c₂ :=
  ⟨h₂.fin.trans h₁.fin, h₂.bufPlain.trans h₁.bufPlain, h₂.bufPlainSize.trans h₁.bufPlainSize,
    h₁.sends.trans h₂.sends⟩

theorem SendFrame.buffers (h : SendFrame S c c') : c'.buffers = c.buffers := by
  simp only [Conn.buffers, h.fin, h.bufPlain, h.bufPlainSize]

section
variable (L : Limits) (E : Env σ ν) (fuel : Nat)

/-- `write_all_tls_from_rustls`. -/
def writeAllTlsFromRustls (c : Conn σ ν) : Except Fault (AprStatus × Conn σ ν) := do
  let (rv, fout, session) ← brigadeTlsFromRustls L E.toServerSession fuel c.fout c.session
  let c := { c with fout, session }
  if rv ≠ .success ∨ c.fout.foutTlsBb = [] then return (rv, c)
  else
    let (rv, ab, net) := E.passBrigade c.net c.fout.foutTlsBb
    let aborted := c.aborted || ab
    return (if rv = .success ∧ aborted then .econnreset else rv,
      { c with aborted, net, fout := { c.fout with foutTlsBb := [], foutBytesInTlsBb := 0 } })

/-- `flush_tls_from_rustls`. -/
def flushTlsFromRustls (c : Conn σ ν) : Except Fault (AprStatus × Conn σ ν) := do
  let (rv, fout, session) ← brigadeTlsFromRustls L E.toServerSession fuel c.fout c.session
  let c := { c with fout, session }
  if rv ≠ .success then return (rv, c)
  else
    let (rv, ab, net) := E.passBrigade c.net (c.fout.foutTlsBb ++ [.flush])
    let aborted := c.aborted || ab
    return (rv, { c with aborted, net, fout := { c.fout with foutTlsBb := [], foutBytesInTlsBb := 0 } })

/-- `filter_abort`. -/
def filterAbort (c : Conn σ ν) : Except Fault (AprStatus × Conn σ ν) :=
  if c.state ≠ .done then do
    let (_, c) ← flushTlsFromRustls L E fuel { c with session := E.sendCloseNotify c.session }
    return (.econnaborted, { c with aborted := true, state := .done })
  else .ok (.econnaborted, c)

variable {L E fuel}

theorem writeAllTlsFromRustls_frame (h : writeAllTlsFromRustls L E fuel c = .ok (rv, c')) :
    c'.state = c.state ∧ (c.aborted = true → c'.aborted = true) := by
  obtain ⟨⟨rv₁, fout, s⟩, -, h⟩ := bind_eq_ok.mp h
  dsimp only at h
  split_ifs at h <;> obtain ⟨-, rfl⟩ := Prod.mk.inj (Except.ok.inj h) <;> simp_all

theorem flushTlsFromRustls_frame (h : flushTlsFromRustls L E fuel c = .ok (rv, c')) :
    c'.state = c.state ∧ (c.aborted = true → c'.aborted = true) := by
  obtain ⟨⟨rv₁, fout, s⟩, -, h⟩ := bind_eq_ok.mp h
  dsimp only at h
  split_ifs at h <;> obtain ⟨-, rfl⟩ := Prod.mk.inj (Except.ok.inj h) <;> simp_all

theorem writeAllTlsFromRustls_safe (c : Conn σ ν) :
    AssertSafe (fun r => SendFrame E.toServerSession c r.2) (writeAllTlsFromRustls L E fuel c) := by
  refine (brigadeTlsFromRustls_safe c.fout c.session).bind ?_
  rintro ⟨rv, fout, s⟩ ⟨h₁, h₂, h₃⟩
  dsimp only
  split_ifs <;> exact ⟨rfl, h₁, h₂, h₃⟩

theorem flushTlsFromRustls_safe (c : Conn σ ν) :
    AssertSafe (fun r => SendFrame E.toServerSession c r.2) (flushTlsFromRustls L E fuel c) := by
  refine (brigadeTlsFromRustls_safe c.fout c.session).bind ?_
  rintro ⟨rv, fout, s⟩ ⟨h₁, h₂, h₃⟩
  dsimp only
  split_ifs <;> exact ⟨rfl, h₁, h₂, h₃⟩

theorem filterAbort_safe (c : Conn σ ν) :
    AssertSafe (fun r => SendFrame E.toServerSession c r.2) (filterAbort L E fuel c) := by
  unfold filterAbort
  split_ifs
  · refine (flushTlsFromRustls_safe _).bind ?_
    rintro ⟨rv, c₁⟩ ⟨h₁, h₂, h₃, h₄⟩
    exact ⟨h₁, h₂, h₃, (ServerSession.Sends.refl.sendCloseNotify).trans h₄⟩
  · exact ⟨rfl, rfl, rfl, .refl⟩

theorem filterAbort_of_done (h : c.state = .done) :
    filterAbort L E fuel c = .ok (.econnaborted, c) := by
  simp [filterAbort, h]

theorem filterAbort_spec (h : filterAbort L E fuel c = .ok (rv, c')) :
    rv = .econnaborted ∧ c'.state = .done ∧ (c'.aborted = true ∨ c' = c) := by
  unfold filterAbort at h
  split_ifs at h with hd
  · obtain ⟨⟨rv₁, c₁⟩, -, h⟩ := bind_eq_ok.mp h
    cases h
    exact ⟨rfl, rfl, .inl rfl⟩
  · cases h
    exact ⟨rfl, not_not.mp hd, .inr rfl⟩

theorem filterAbort_keepsOrAborts (h : filterAbort L E fuel c = .ok (rv, c')) :
    KeepsOrAborts rv c c' := by
  obtain ⟨rfl, hd, ha | rfl⟩ := filterAbort_spec h
  · exact .inr ⟨rfl, hd, ha⟩
  · exact .of_frame rfl id

end

end ModTls
