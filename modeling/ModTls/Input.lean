import ModTls.Handshake

namespace ModTls
set_option autoImplicit true

/-- Modelled from the spec: `tls_util_brigade_transfer` moves up to `length` bytes from `src`. -/
def tlsUtilBrigadeTransfer (src : List UInt8) (length : Nat) : List UInt8 × List UInt8 :=
  (src.take length, src.drop length)

/-- Modelled from the spec: `tls_util_brigade_copy` copies up to `length` bytes of `src`. -/
def tlsUtilBrigadeCopy (src : List UInt8) (length : Nat) : List UInt8 :=
  src.take length

/-- Modelled from the spec: `tls_util_brigade_split_line` moves up to the first line feed. -/
def tlsUtilBrigadeSplitLine (src : List UInt8) (length : Nat) : List UInt8 × List UInt8 :=
  let n := min length ((src.takeWhile (· ≠ 10)).length + 1)
  (src.take n, src.drop n)

/-- The mode dispatch of `filter_conn_input`: status, bytes for the caller, rest of `fin_plain_bb`. -/
def inputMode (L : Limits) (mode : InputMode) (readbytes : Nat) (plain : List UInt8) :
    Except Fault (AprStatus × List UInt8 × List UInt8) :=
  match mode with
  | .getline =>
    let (line, rest) :=
      tlsUtilBrigadeSplitLine plain (if readbytes = 0 then L.hugeStringLen else readbytes)
    .ok (.success, line, rest)
  | .readbytes => do
    apAssert (0 < readbytes)
    let (out, rest) := tlsUtilBrigadeTransfer plain readbytes
    return (.success, out, rest)
  | .speculative => do
    apAssert (0 < readbytes)
    return (.success, tlsUtilBrigadeCopy plain readbytes, plain)
  | .exhaustive => .ok (.success, plain, [])
  | _ => .ok (.enotimpl, [], plain)

/-- The `while (APR_BRIGADE_EMPTY(fctx->fin_plain_bb))` loop of `filter_conn_input`. -/
def fillLoop (L : Limits) (E : Env σ ν) :
    Nat → Conn σ ν → Except Fault (AprStatus × RustlsResult × Conn σ ν)
  | 0, _ => .error .outOfFuel
  | fuel + 1, c =>
    if c.fin.finPlainBb ≠ [] then .ok (.success, .ok, c)
    else
      let (rr, plain, session) :=
        if 0 < c.fin.finBytesInRustls then E.read c.session L.bucketBuffSize
        else (.ok, [], c.session)
      let c := { c with session }
      if rr ≠ .ok then .ok (.success, rr, c)
      else if plain.length = 0 then do
        let (rv, c) ← readTlsMax E fuel { c with fin := { c.fin with finBytesInRustls := 0 } }
        if rv ≠ .success then return (rv, .ok, c) else fillLoop L E fuel c
      else fillLoop L E fuel { c with fin := { c.fin with finPlainBb := c.fin.finPlainBb ++ plain } }

/-- One pass of the refill loop while `fin_plain_bb` is empty. -/
inductive FillMove (L : Limits) (E : Env σ ν) : Conn σ ν → Conn σ ν → Prop
  | drainFailed (hp : c.fin.finPlainBb = [])
      (hd : (if 0 < c.fin.finBytesInRustls then E.read c.session L.bucketBuffSize
        else (.ok, [], c.session)) = (rr, plain, s)) (hrr : rr ≠ .ok) :
      FillMove L E c { c with session := s }
  | readTls (hp : c.fin.finPlainBb = [])
      (hd : (if 0 < c.fin.finBytesInRustls then E.read c.session L.bucketBuffSize
        else (.ok, [], c.session)) = (.ok, [], s))
      (hr : readTlsMax E fuel { c with session := s, fin := { c.fin with finBytesInRustls := 0 } } =
        .ok (rv, c')) :
      FillMove L E c c'
  | fill (hp : c.fin.finPlainBb = [])
      (hd : (if 0 < c.fin.finBytesInRustls then E.read c.session L.bucketBuffSize
        else (.ok, [], c.session)) = (.ok, plain, s)) (hl : plain ≠ []) :
      FillMove L E c
        { c with session := s, fin := { c.fin with finPlainBb := c.fin.finPlainBb ++ plain } }

theorem fillLoop_moves (h : fillLoop L E fuel c = .ok (rv, rr, c')) :
    Relation.ReflTransGen (FillMove L E) c c' := by
  induction fuel generalizing c with
  | zero => cases h
  | succ fuel ih =>
    rw [fillLoop] at h
    by_cases hp : c.fin.finPlainBb ≠ []
    · rw [if_pos hp] at h
      cases h
      exact .refl
    rw [if_neg hp] at h
    have hp' := not_not.mp hp
    generalize hd : (if 0 < c.fin.finBytesInRustls then E.read c.session L.bucketBuffSize
      else (RustlsResult.ok, ([] : List UInt8), c.session)) = d at h
    obtain ⟨rr₁, plain, s₁⟩ := d
    dsimp only at h
    split_ifs at h with hrr hl
    · cases h
      exact .single (.drainFailed hp' hd hrr)
    · obtain rfl := not_not.mp hrr
      obtain rfl := List.length_eq_zero.mp hl
      obtain ⟨⟨rv₁, c₁⟩, h₁, h⟩ := bind_eq_ok.mp h
      have hm : FillMove L E c c₁ := .readTls hp' hd h₁
      dsimp only at h
      split_ifs at h
      · cases h
        exact .single hm
      · exact .head hm (ih h)
    · obtain rfl := not_not.mp hrr
      exact .head (.fill hp' hd fun he => hl (by rw [he]; rfl)) (ih h)

theorem FillMove.frame (h : FillMove L E c c') : c'.state = c.state ∧ c'.aborted = c.aborted := by
  cases h with
  | readTls _ _ hr => exact ⟨(readTlsMax_frame hr).1, (readTlsMax_frame hr).2.1⟩
  | drainFailed | fill => exact ⟨rfl, rfl⟩

theorem fillLoop_frame (h : fillLoop L E fuel c = .ok (rv, rr, c')) :
    c'.state = c.state ∧ c'.aborted = c.aborted :=
  reflTransGen_invariant (fun d => d.state = c.state ∧ d.aborted = c.aborted)
    (fun hm hd => ⟨hm.frame.1.trans hd.1, hm.frame.2.trans hd.2⟩) (fillLoop_moves h) ⟨rfl, rfl⟩

theorem FillMove.plain (h : FillMove L E c c') :
    c'.fout = c.fout ∧ (c'.fin.finPlainBb = c.fin.finPlainBb ∨
      c.fin.finPlainBb = [] ∧ ∃ s, c'.fin.finPlainBb = (E.read s L.bucketBuffSize).2.1) := by
  cases h with
  | drainFailed => exact ⟨rfl, .inl rfl⟩
  | readTls _ _ hr =>
    exact ⟨(readTlsMax_frame hr).2.2, .inl (congrArg Prod.fst (readTlsMax_buffers hr))⟩
  | fill hp hd hl =>
    refine ⟨rfl, .inr ⟨hp, c.session, ?_⟩⟩
    split_ifs at hd
    · rw [hd, hp]
      rfl
    · cases hd
      exact absurd rfl hl

theorem fillLoop_plain (h : fillLoop L E fuel c = .ok (rv, rr, c')) :
    c'.fout = c.fout ∧ (c'.fin.finPlainBb = c.fin.finPlainBb ∨
      c.fin.finPlainBb = [] ∧ ∃ s, c'.fin.finPlainBb = (E.read s L.bucketBuffSize).2.1) :=
  reflTransGen_invariant (fun d => d.fout = c.fout ∧ (d.fin.finPlainBb = c.fin.finPlainBb ∨
      c.fin.finPlainBb = [] ∧ ∃ s, d.fin.finPlainBb = (E.read s L.bucketBuffSize).2.1))
    (fun hm ⟨hf, hp⟩ => by
      obtain ⟨hf', e | ⟨he, hs⟩⟩ := hm.plain
      · exact ⟨hf'.trans hf, e ▸ hp⟩
      · exact ⟨hf'.trans hf, .inr ⟨hp.elim (fun e => e ▸ he) And.left, hs⟩⟩)
    (fillLoop_moves h) ⟨rfl, .inl rfl⟩

section
variable (L : Limits) (E : Env σ ν) (fuel : Nat)

/-- The phase steps of `filter_conn_input`: `PRE_HANDSHAKE` to `HANDSHAKE` to `TRAFFIC`. -/
def inputHandshake (c : Conn σ ν) : Except Fault (AprStatus × Conn σ ν) := do
  let (rv, c) ←
    (if c.state = .preHandshake then do
      let (rv, c) ← filterDoPreHandshake L E fuel c
      pure (rv, if rv = .success then { c with state := .handshake } else c)
    else pure (.success, c))
  if rv ≠ .success then return (rv, c)
  else if c.state = .handshake then do
    let (rv, c) ← filterDoHandshake L E fuel c
    return (rv, if rv = .success then { c with state := .traffic } else c)
  else return (.success, c)

/-- `filter_conn_input`: the status and the plaintext added to the caller's brigade. -/
def filterConnInput (c : Conn σ ν) (mode : InputMode) (block : ReadType) (readbytes : Nat) :
    Except Fault (AprStatus × List UInt8 × Conn σ ν) :=
  let c := { c with fin := { c.fin with finBlock := block } }
  if c.aborted then do
    let (rv, c) ← filterAbort L E fuel c
    return (rv, [], c)
  else do
    let (rv, c) ← inputHandshake L E fuel c
    if rv ≠ .success ∨ mode = .init then return (rv, [], c)
    else do
      let (rv, rr, c) ← fillLoop L E fuel c
      match rr with
      | .err code => return (tlsUtilRustlsError code, [], c)
      | .ok =>
        if rv ≠ .success then return (rv, [], c)
        else do
          let (rv, out, plain) ← inputMode L mode readbytes c.fin.finPlainBb
          let c := { c with fin := { c.fin with finPlainBb := plain } }
          if rv ≠ .success then return (rv, out, c)
          else do
            let (_, c) ← writeAllTlsFromRustls L E fuel c
            return (.success, out, c)

variable {L E fuel}

theorem filterConnInput_cases
    (h : filterConnInput L E fuel c mode block readbytes = .ok (rv, out, c')) :
    (∃ rv₁, filterAbort L E fuel { c with fin := { c.fin with finBlock := block } } = .ok (rv₁, c')) ∨
      ∃ rv₁ c₁, inputHandshake L E fuel { c with fin := { c.fin with finBlock := block } } =
          .ok (rv₁, c₁) ∧
        (c' = c₁ ∨ ∃ rv₂ rr c₂, fillLoop L E fuel c₁ = .ok (rv₂, rr, c₂) ∧
          (c' = c₂ ∨ ∃ rv₃ out₃ plain,
            inputMode L mode readbytes c₂.fin.finPlainBb = .ok (rv₃, out₃, plain) ∧
            (c' = { c₂ with fin := { c₂.fin with finPlainBb := plain } } ∨
              ∃ rv₄, writeAllTlsFromRustls L E fuel
                { c₂ with fin := { c₂.fin with finPlainBb := plain } } = .ok (rv₄, c')))) := by
  unfold filterConnInput at h
  dsimp only at h
  split_ifs at h
  · obtain ⟨⟨rv₁, c₁⟩, h₁, h⟩ := bind_eq_ok.mp h
    cases h
    exact .inl ⟨rv₁, h₁⟩
  obtain ⟨⟨rv₁, c₁⟩, h₁, h⟩ := bind_eq_ok.mp h
  refine .inr ⟨rv₁, c₁, h₁, ?_⟩
  dsimp only at h
  split_ifs at h
  · cases h
    exact .inl rfl
  obtain ⟨⟨rv₂, rr, c₂⟩, h₂, h⟩ := bind_eq_ok.mp h
  refine .inr ⟨rv₂, rr, c₂, h₂, ?_⟩
  dsimp only at h
  split at h
  · cases h
    exact .inl rfl
  split_ifs at h
  · cases h
    exact .inl rfl
  obtain ⟨⟨rv₃, out₃, plain⟩, h₃, h⟩ := bind_eq_ok.mp h
  refine .inr ⟨rv₃, out₃, plain, h₃, ?_⟩
  dsimp only at h
  split_ifs at h
  · cases h
    exact .inl rfl
  obtain ⟨⟨rv₄, c₄⟩, h₄, h⟩ := bind_eq_ok.mp h
  cases h
  exact .inr ⟨rv₄, h₄⟩

theorem inputHandshake_effect (h : inputHandshake L E fuel c = .ok (rv, c')) :
    CallEffect (.input mode blk n) c c' := by
  obtain ⟨⟨rv₁, c₁⟩, h₁, h⟩ := bind_eq_ok.mp h
  have e₁ : CallEffect (.input mode blk n) c c₁ := by
    split at h₁
    next hp =>
      obtain ⟨⟨rv₀, c₀⟩, h₀, h₁⟩ := bind_eq_ok.mp h₁
      cases h₁
      have k := filterDoPreHandshake_keepsOrAborts h₀
      split_ifs with hr
      · subst hr
        exact .advance k (hp ▸ .sniff) (by decide)
      · exact .of_keepsOrAborts k
    next =>
      cases h₁
      exact .refl _ _
  dsimp only at h
  split_ifs at h with hr hs
  · cases h
    exact e₁
  · obtain ⟨⟨rv₂, c₂⟩, h₂, h⟩ := bind_eq_ok.mp h
    cases h
    have k := filterDoHandshake_keepsOrAborts h₂
    refine e₁.trans_input ?_
    split_ifs with hr₂
    · subst hr₂
      exact .advance k (hs ▸ .handshake) (by decide)
    · exact .of_keepsOrAborts k
  · cases h
    exact e₁

theorem inputHandshake_of_established (hp : c.state ≠ .preHandshake) (hh : c.state ≠ .handshake) :
    inputHandshake L E fuel c = .ok (.success, c) := by
  simp [inputHandshake, hp, hh]

theorem fillLoop_of_plain (h : c.fin.finPlainBb ≠ []) :
    fillLoop L E (fuel + 1) c = .ok (.success, .ok, c) := by
  simp [fillLoop, h]

theorem filterConnInput_effect (h : filterConnInput L E fuel c mode blk readbytes = .ok (rv, out, c')) :
    CallEffect (.input mode blk readbytes) c c' := by
  rcases filterConnInput_cases h with ⟨_, h₁⟩ | ⟨_, c₁, h₁, h⟩
  · exact (CallEffect.of_keepsOrAborts (filterAbort_keepsOrAborts h₁)).frame_left rfl rfl
  have e₁ : CallEffect (.input mode blk readbytes) c c₁ := (inputHandshake_effect h₁).frame_left rfl rfl
  rcases h with rfl | ⟨_, _, c₂, h₂, h⟩
  · exact e₁
  obtain ⟨hs₂, ha₂⟩ := fillLoop_frame h₂
  have e₂ := e₁.frame hs₂ (ha₂ ▸ id)
  rcases h with rfl | ⟨_, _, _, -, rfl | ⟨_, h₄⟩⟩
  · exact e₂
  · exact e₂.frame rfl id
  · exact (writeAllTlsFromRustls_frame h₄).elim e₂.frame

theorem inputHandshake_invariant (P : Conn σ ν → Prop) (hstate : ∀ d s, P d → P { d with state := s })
    (hpre : ∀ {d d' rv}, filterDoPreHandshake L E fuel d = .ok (rv, d') → P d → P d')
    (hhs : ∀ {d d' rv}, filterDoHandshake L E fuel d = .ok (rv, d') → P d → P d')
    (h : inputHandshake L E fuel c = .ok (rv, c')) (hc : P c) : P c' := by
  obtain ⟨⟨rv₁, c₁⟩, h₁, h⟩ := bind_eq_ok.mp h
  have p₁ : P c₁ := by
    split at h₁
    · obtain ⟨⟨rv₀, c₀⟩, h₀, h₁⟩ := bind_eq_ok.mp h₁
      cases h₁
      have := hpre h₀ hc
      split_ifs
      · exact hstate _ _ this
      · exact this
    · cases h₁
      exact hc
  dsimp only at h
  split_ifs at h
  · cases h
    exact p₁
  · obtain ⟨⟨rv₂, c₂⟩, h₂, h⟩ := bind_eq_ok.mp h
    cases h
    have := hhs h₂ p₁
    split_ifs
    · exact hstate _ _ this
    · exact this
  · cases h
    exact p₁

theorem inputHandshake_buffers (h : inputHandshake L E fuel c = .ok (rv, c')) :
    c'.buffers = c.buffers :=
  inputHandshake_invariant (fun d => d.buffers = c.buffers) (fun _ _ hd => hd)
    (fun h₀ hd => (filterDoPreHandshake_buffers h₀).trans hd)
    (fun h₂ hd => (filterDoHandshake_buffers h₂).trans hd) h rfl

theorem inputMode_suffix (h : inputMode L mode readbytes plain = .ok (rv, out, rest)) :
    rest <:+ plain := by
  cases mode <;> simp only [inputMode] at h
  case readbytes =>
    obtain ⟨_, -, h⟩ := bind_eq_ok.mp h
    cases h
    exact List.drop_suffix _ _
  case speculative =>
    obtain ⟨_, -, h⟩ := bind_eq_ok.mp h
    cases h
    exact List.suffix_refl _
  all_goals cases h
  case getline => exact List.drop_suffix _ _
  case exhaustive => exact List.nil_suffix
  all_goals exact List.suffix_refl _

theorem plain_suffix_of_eq (s : σ) (h : p' = plain) :
    p' <:+ (if plain = [] then (E.read s L.bucketBuffSize).2.1 else plain) := by
  subst h
  split_ifs with he
  · rw [he]
    exact List.nil_suffix
  · exact List.suffix_refl _

theorem filterConnInput_plain
    (h : filterConnInput L E fuel c mode block readbytes = .ok (rv, out, c')) :
    c'.fout.foutBufPlain = c.fout.foutBufPlain ∧
      c'.fout.foutBufPlainSize = c.fout.foutBufPlainSize ∧
      ∃ s, c'.fin.finPlainBb <:+
        (if c.fin.finPlainBb = [] then (E.read s L.bucketBuffSize).2.1 else c.fin.finPlainBb) := by
  rcases filterConnInput_cases h with ⟨_, h₁⟩ | ⟨_, c₁, h₁, h⟩
  · have e := ((filterAbort_safe _).of_ok h₁).buffers
    simp only [Conn.buffers, Prod.mk.injEq] at e
    exact ⟨e.2.1, e.2.2, c.session, plain_suffix_of_eq _ e.1⟩
  have e₁ := inputHandshake_buffers h₁
  simp only [Conn.buffers, Prod.mk.injEq] at e₁
  rcases h with rfl | ⟨_, _, c₂, h₂, h⟩
  · exact ⟨e₁.2.1, e₁.2.2, c.session, plain_suffix_of_eq _ e₁.1⟩
  obtain ⟨hf₂, hp₂⟩ := fillLoop_plain h₂
  have hfout : c₂.fout.foutBufPlain = c.fout.foutBufPlain ∧
      c₂.fout.foutBufPlainSize = c.fout.foutBufPlainSize := by
    rw [hf₂]
    exact ⟨e₁.2.1, e₁.2.2⟩
  have hsuf : ∀ p', p' <:+ c₂.fin.finPlainBb → ∃ s, p' <:+
      (if c.fin.finPlainBb = [] then (E.read s L.bucketBuffSize).2.1 else c.fin.finPlainBb) := by
    intro p' hp'
    rcases hp₂ with e | ⟨he, s, e⟩
    · exact ⟨c.session, hp'.trans (plain_suffix_of_eq _ (e.trans e₁.1))⟩
    · rw [e₁.1] at he
      exact ⟨s, by rw [if_pos he, ← e]; exact hp'⟩
  rcases h with rfl | ⟨_, _, _, h₃, h⟩
  · exact ⟨hfout.1, hfout.2, hsuf _ (List.suffix_refl _)⟩
  have hm := inputMode_suffix h₃
  rcases h with rfl | ⟨_, h₄⟩
  · exact ⟨hfout.1, hfout.2, hsuf _ hm⟩
  have f₄ := (writeAllTlsFromRustls_safe _).of_ok h₄
  refine ⟨f₄.bufPlain.trans hfout.1, f₄.bufPlainSize.trans hfout.2, ?_⟩
  rw [f₄.fin]
  exact hsuf _ hm

end

/-- After a would-block between the hello's two bytes, only the second is replayed. -/
theorem filterDoPreHandshake_replay_after_eagain (L : Limits) :
    ∃ c₁ c₂, filterConnInput L recordEnv 3
        (recordConn L [(.success, [.data [22]]), (.eagain, []), (.success, [.data [22]])])
        .readbytes .nonblock 1 = .ok (.eagain, [], c₁) ∧
      filterDoPreHandshake L recordEnv 3 { c₁ with fin := { c₁.fin with finBlock := .block } } =
        .ok (.success, c₂) ∧
      c₂.fin.finTlsBb = [.data [22]] := by
  have h1 : 0 < 2 * L.prefTlsWriteSize := by have := L.prefTlsWriteSize_pos; omega
  -- after the first call the session has seen one byte, and `fin_tls_buffer_bb` holds it
  let c₁ : Conn RecordSession (List (AprStatus × List InBucket)) :=
    { recordConn L [(.success, [.data [22]])] with
      session := ⟨[], 1, []⟩
      fin := { (recordConn L []).fin with
        finTlsBufferBb := some [22], finBytesInRustls := 1, finBlock := .nonblock } }
  -- the second call empties the buffer before it reads, so only the second byte is replayed
  let c₂ : Conn RecordSession (List (AprStatus × List InBucket)) :=
    { c₁ with
      session := ⟨[], 0, []⟩, net := []
      fin := { c₁.fin with
        finTlsBb := [.data [22]], finTlsBufferBb := none, finBytesInRustls := 2, finBlock := .block } }
  refine ⟨c₁, c₂, ?_, ?_, rfl⟩ <;>
  simp [c₁, c₂, filterConnInput, inputHandshake, filterDoPreHandshake, preHandshakeLoop, readTlsMax,
    readTlsToRustls, feedLoop, readTlsStatus, handshakeCleanup, replayBuckets, recordConn,
    tlsFilterConnInit, recordEnv, InBucket.read, h1]

/-- EOS right after the client hello meets `fin_tls_buffer_bb` already `NULL`. -/
theorem filterConnInput_eos_after_rebind (L : Limits) :
    filterConnInput L recordEnv 4 (recordConn L [(.success, [.data [22, 22]]), (.success, [.eos])])
      .init .block 0 = .error .nullBrigade := by
  have h1 : 0 < 2 * L.prefTlsWriteSize := by have := L.prefTlsWriteSize_pos; omega
  simp [filterConnInput, inputHandshake, filterDoPreHandshake, preHandshakeLoop, readTlsMax,
    readTlsToRustls, feedLoop, readTlsStatus, filterDoHandshake, handshakeLoop, handshakeCleanup,
    replayBuckets, recordConn, tlsFilterConnInit, recordEnv, InBucket.read, aprBrigadeCleanup, h1]

/-- An EOS in the brigade of the last byte fails the call; EOS alone lets the byte out first. -/
theorem filterConnInput_eos_division (L : Limits) :
    filterConnInput L recordEnv 4
        (recordConn L [(.success, [.data [22, 22, 22]]), (.success, [.data [7], .eos])])
        .readbytes .block 100 = .error .nullBrigade ∧
      ∃ c, filterConnInput L recordEnv 4
          (recordConn L [(.success, [.data [22, 22, 22]]), (.success, [.data [7]]), (.success, [.eos])])
          .readbytes .block 100 = .ok (.success, [7], c) ∧
        filterConnInput L recordEnv 4 c .readbytes .block 100 = .error .nullBrigade := by
  have h1 : 0 < 2 * L.prefTlsWriteSize := by have := L.prefTlsWriteSize_pos; omega
  have h2 : 1 < 2 * L.prefTlsWriteSize := by have := L.prefTlsWriteSize_pos; omega
  have hB := L.bucketBuffSize_pos
  have ht : [(7 : UInt8)].take L.bucketBuffSize = [7] := List.take_of_length_le hB
  have hd : [(7 : UInt8)].drop L.bucketBuffSize = [] := List.drop_eq_nil_of_le hB
  let c : Conn RecordSession (List (AprStatus × List InBucket)) :=
    { recordConn L [(.success, [.eos])] with
      state := .traffic, session := ⟨[], 3, []⟩
      fin := { (recordConn L []).fin with finBytesInRustls := 1 } }
  refine ⟨?_, c, ?_, ?_⟩ <;>
  simp [c, filterConnInput, inputHandshake, filterDoPreHandshake, preHandshakeLoop, readTlsMax,
    readTlsToRustls, feedLoop, readTlsStatus, filterDoHandshake, handshakeLoop, handshakeCleanup,
    replayBuckets, fillLoop, inputMode, tlsUtilBrigadeTransfer, apAssert, writeAllTlsFromRustls,
    brigadeTlsFromRustls, recordConn, tlsFilterConnInit, recordEnv, InBucket.read,
    aprBrigadeCleanup, h1, h2, hB, ht, hd]

/-- `tls_filter_input_pending` declines while the session holds a byte a read hands out. -/
theorem tlsFilterInputPending_misses_session_plaintext (L : Limits) :
    ∃ c c', filterConnInput L recordEnv 4
        (recordConn L [(.success, [.data [22, 22, 22, 7]]), (.success, [.data [9]])])
        .init .block 0 = .ok (.success, [], c) ∧
      c.state = .traffic ∧ c.aborted = false ∧ tlsFilterInputPending c = .declined ∧
      filterConnInput L recordEnv 4 c .readbytes .nonblock 100 = .ok (.success, [7], c') ∧
      c'.net = c.net := by
  have h1 : 0 < 2 * L.prefTlsWriteSize := by have := L.prefTlsWriteSize_pos; omega
  have hB := L.bucketBuffSize_pos
  have ht : [(7 : UInt8)].take L.bucketBuffSize = [7] := List.take_of_length_le hB
  have hd : [(7 : UInt8)].drop L.bucketBuffSize = [] := List.drop_eq_nil_of_le hB
  let c : Conn RecordSession (List (AprStatus × List InBucket)) :=
    { recordConn L [(.success, [.data [9]])] with
      state := .traffic, session := ⟨[], 3, [7]⟩
      fin := { (recordConn L []).fin with finBytesInRustls := 8 } }
  refine ⟨c, { c with session := ⟨[], 3, []⟩, fin := { c.fin with finBlock := .nonblock } },
    ?_, rfl, rfl, rfl, ?_, rfl⟩ <;>
  simp [c, filterConnInput, inputHandshake, filterDoPreHandshake, preHandshakeLoop, readTlsMax,
    readTlsToRustls, feedLoop, readTlsStatus, filterDoHandshake, handshakeLoop, handshakeCleanup,
    replayBuckets, fillLoop, inputMode, tlsUtilBrigadeTransfer, apAssert, writeAllTlsFromRustls,
    brigadeTlsFromRustls, recordConn, tlsFilterConnInit, recordEnv, InBucket.read, h1, hB, ht, hd]

end ModTls
