import ModTls.Conn

namespace ModTls
set_option autoImplicit true

/-- How the bucket-feeding loop of `read_tls_to_rustls` is left. -/
inductive FeedExit
  | drained
  | eos
  | readFailed
  | rustlsFailed (code : Nat)
  deriving DecidableEq, Repr

/-- The locals `rv` and `passed` of `read_tls_to_rustls`, with the state its loop updates. -/
structure Feed (σ : Type) where
  rv : AprStatus
  passed : Nat
  fin : FinCtx
  session : σ

/-- The bucket-feeding loop of `read_tls_to_rustls`, one iteration per unit of fuel. -/
def feedLoop (S : ServerSession σ) (len : Nat) : Nat → Feed σ → Except Fault (FeedExit × Feed σ)
  | 0, _ => .error .outOfFuel
  | fuel + 1, f =>
    match f.fin.finTlsBb with
    | [] => .ok (.drained, f)
    | b :: rest =>
      if f.passed < len then
        if b = .eos then do
          let buf ← aprBrigadeCleanup f.fin.finTlsBufferBb
          return (.eos, { f with rv := .eof, fin := { f.fin with finTlsBufferBb := buf } })
        else
          let (rv, data) := b.read
          if rv = .eof then feedLoop S len fuel { f with rv, fin := { f.fin with finTlsBb := rest } }
          else if rv ≠ .success then .ok (.readFailed, { f with rv })
          else if 0 < data.length then
            match S.readTls f.session data with
            | (.err code, _, session) => .ok (.rustlsFailed code, { f with rv, session })
            | (.ok, rlen, session) =>
              feedLoop S len fuel
                { rv, session, passed := f.passed + rlen
                  fin := { f.fin with
                    finTlsBufferBb := f.fin.finTlsBufferBb.map (· ++ data.take rlen)
                    finTlsBb := if data.length ≤ rlen then rest else .data (data.drop rlen) :: rest
                    finBytesInRustls := f.fin.finBytesInRustls + data.length } }
          else feedLoop S len fuel { f with rv, fin := { f.fin with finTlsBb := rest } }
      else .ok (.drained, f)

/-- The status `read_tls_to_rustls` returns from its `cleanup:` block. -/
def readTlsStatus (rr : RustlsResult) (rv : AprStatus) (passed : Nat) (finBlock : ReadType) :
    AprStatus :=
  if rr ≠ .ok then .econnreset
  else if rv = .eof ∧ 0 < passed then .success
  else if rv = .success ∧ passed = 0 ∧ finBlock = .nonblock then .eagain
  else rv

/-- `read_tls_to_rustls`: feed up to `len` bytes of `fin_tls_bb` to the session, then process them. -/
def readTlsToRustls (E : Env σ ν) (len fuel : Nat) (fin : FinCtx) (session : σ) (net : ν) :
    Except Fault (AprStatus × FinCtx × σ × ν) :=
  let (rv, fin, net) :=
    if fin.finTlsBb = [] then
      let (rv, bb, net) := E.getBrigade net fin.finBlock len
      (rv, { fin with finTlsBb := bb }, net)
    else (.success, fin, net)
  if rv ≠ .success then .ok (readTlsStatus .ok rv 0 fin.finBlock, fin, session, net)
  else do
    let (exit, f) ← feedLoop E.toServerSession len fuel ⟨.success, 0, fin, session⟩
    let (rr, session) :=
      match exit with
      | .drained => if 0 < f.passed then E.processNewPackets f.session else (.ok, f.session)
      | .rustlsFailed code => (.err code, f.session)
      | _ => (.ok, f.session)
    return (readTlsStatus rr f.rv f.passed fin.finBlock, f.fin, session, net)

theorem readTlsToRustls_getBrigade (h : fin.finTlsBb ≠ []) :
    readTlsToRustls { E with getBrigade := g } len fuel fin session net =
      readTlsToRustls E len fuel fin session net := by
  unfold readTlsToRustls
  rw [if_neg h, if_neg h]

/-- `read_tls_to_rustls(fctx, fctx->fin_max_in_rustls)`, as all of its callers make it. -/
def readTlsMax (E : Env σ ν) (fuel : Nat) (c : Conn σ ν) : Except Fault (AprStatus × Conn σ ν) := do
  let (rv, fin, session, net) ← readTlsToRustls E c.fin.finMaxInRustls fuel c.fin c.session c.net
  return (rv, { c with fin, session, net })

theorem readTlsMax_frame (h : readTlsMax E fuel c = .ok (rv, c')) :
    c'.state = c.state ∧ c'.aborted = c.aborted ∧ c'.fout = c.fout := by
  obtain ⟨⟨rv₁, fin, s, n⟩, -, h⟩ := bind_eq_ok.mp h
  cases h
  exact ⟨rfl, rfl, rfl⟩

/-- The passes of the bucket-feeding loop that change the feed. -/
inductive FeedMove (S : ServerSession σ) (len : Nat) : Feed σ → Feed σ → Prop
  | eos (hp : f.passed < len) (hbb : f.fin.finTlsBb = .eos :: rest)
      (hbuf : aprBrigadeCleanup f.fin.finTlsBufferBb = .ok buf) :
      FeedMove S len f { f with rv := .eof, fin := { f.fin with finTlsBufferBb := buf } }
  | skip (hp : f.passed < len) (hbb : f.fin.finTlsBb = b :: rest) (hb : b ≠ .eos)
      (hread : b.read = (rv, [])) :
      FeedMove S len f { f with rv, fin := { f.fin with finTlsBb := rest } }
  | readFailed (hp : f.passed < len) (hbb : f.fin.finTlsBb = b :: rest) (hb : b ≠ .eos)
      (hread : b.read = (rv, data)) (heof : rv ≠ .eof) (hrv : rv ≠ .success) :
      FeedMove S len f { f with rv }
  | rustlsFailed (hp : f.passed < len) (hbb : f.fin.finTlsBb = b :: rest) (hb : b ≠ .eos)
      (hread : b.read = (.success, data)) (hpos : 0 < data.length)
      (hs : S.readTls f.session data = (.err code, n, session)) :
      FeedMove S len f { f with rv := .success, session }
  | feed {f : Feed σ} {b : InBucket} {rest : List InBucket} {data : List UInt8} {rlen : Nat}
      {session : σ} (hp : f.passed < len) (hbb : f.fin.finTlsBb = b :: rest) (hb : b ≠ .eos)
      (hread : b.read = (.success, data)) (hpos : 0 < data.length)
      (hs : S.readTls f.session data = (.ok, rlen, session)) :
      FeedMove S len f
        { rv := .success, session, passed := f.passed + rlen
          fin := { f.fin with
            finTlsBufferBb := f.fin.finTlsBufferBb.map (· ++ data.take rlen)
            finTlsBb := if data.length ≤ rlen then rest else .data (data.drop rlen) :: rest
            finBytesInRustls := f.fin.finBytesInRustls + data.length } }

theorem feedLoop_moves (h : feedLoop S len fuel f = .ok (exit, f')) :
    Relation.ReflTransGen (FeedMove S len) f f' := by
  induction fuel generalizing f with
  | zero => cases h
  | succ fuel ih =>
    rw [feedLoop] at h
    split at h
    · cases h
      exact .refl
    rename_i b rest hbb
    rcases hread : b.read with ⟨rv, data⟩
    simp only [hread] at h
    split_ifs at h with hp he heof hs hd
    · obtain ⟨buf, hbuf, h⟩ := bind_eq_ok.mp h
      cases h
      exact .single (.eos hp (he ▸ hbb) hbuf)
    · obtain rfl : data = [] := by
        simpa only [hread] using InBucket.read_bytes_of_ne_success (b := b) (by simp [hread, heof])
      exact .head (.skip hp hbb he hread) (ih h)
    · cases h
      exact .single (.readFailed hp hbb he hread heof hs)
    · obtain rfl : rv = .success := not_not.mp hs
      split at h
      next heq =>
        cases h
        exact .single (.rustlsFailed hp hbb he hread hd heq)
      next heq =>
        exact .head (.feed hp hbb he hread hd heq) (ih h)
    · obtain rfl : data = [] := List.length_eq_zero.mp (by omega)
      exact .head (.skip hp hbb he hread) (ih h)
    · cases h
      exact .refl

theorem feedLoop_finPlainBb (h : feedLoop S len fuel f = .ok (exit, f')) :
    f'.fin.finPlainBb = f.fin.finPlainBb :=
  reflTransGen_invariant (fun g => g.fin.finPlainBb = f.fin.finPlainBb)
    (fun hm hg => by cases hm <;> exact hg) (feedLoop_moves h) rfl

theorem readTlsMax_buffers (h : readTlsMax E fuel c = .ok (rv, c')) : c'.buffers = c.buffers := by
  obtain ⟨⟨rv₁, fin, s, n⟩, h₁, h⟩ := bind_eq_ok.mp h
  cases h
  show (fin.finPlainBb, _) = (c.fin.finPlainBb, _)
  congr 1
  unfold readTlsToRustls at h₁
  generalize hin : (if c.fin.finTlsBb = [] then _ else _) = x at h₁
  obtain ⟨rv₀, fin₀, net₀⟩ := x
  have h₀ : fin₀.finPlainBb = c.fin.finPlainBb := by
    split_ifs at hin <;> cases hin <;> rfl
  dsimp only at h₁
  split_ifs at h₁
  · cases h₁
    exact h₀
  · obtain ⟨⟨exit, f⟩, hf, h₁⟩ := bind_eq_ok.mp h₁
    cases h₁
    exact (feedLoop_finPlainBb hf).trans h₀

theorem feedLoop_receives (h : feedLoop S len fuel f = .ok (exit, f')) :
    S.Receives f.session f'.session :=
  reflTransGen_invariant (fun g => S.Receives f.session g.session)
    (fun hm hg => by
      cases hm with
      | rustlsFailed _ _ _ _ _ hs => exact hg.readTls_eq hs
      | feed _ _ _ _ _ hs => exact hg.readTls_eq hs
      | eos | skip | readFailed => exact hg)
    (feedLoop_moves h) .refl

theorem readTlsMax_receives (h : readTlsMax E fuel c = .ok (rv, c')) :
    E.Receives c.session c'.session ∧ c'.fout = c.fout ∧
      (c'.net = c.net ∨ ∃ blk len, c'.net = (E.getBrigade c.net blk len).2.2) := by
  obtain ⟨⟨rv₁, fin, s, n⟩, h₁, h⟩ := bind_eq_ok.mp h
  cases h
  unfold readTlsToRustls at h₁
  generalize hin : (if c.fin.finTlsBb = [] then _ else _) = x at h₁
  obtain ⟨rv₀, fin₀, net₀⟩ := x
  have hn : net₀ = c.net ∨ ∃ blk len, net₀ = (E.getBrigade c.net blk len).2.2 := by
    split_ifs at hin <;> cases hin
    · exact .inr ⟨_, _, rfl⟩
    · exact .inl rfl
  dsimp only at h₁
  split_ifs at h₁
  · cases h₁
    exact ⟨.refl, rfl, hn⟩
  obtain ⟨⟨exit, f⟩, hf, h₁⟩ := bind_eq_ok.mp h₁
  cases h₁
  refine ⟨?_, rfl, hn⟩
  have hr := feedLoop_receives hf
  split
  · split
    · exact .processNewPackets hr
    · exact hr
  all_goals exact hr

/-- Every EOS bucket of `bb` stands behind at least `len - passed` bytes of data. -/
def EosBeyond (len passed : Nat) (bb : List InBucket) : Prop :=
  ∀ pre post, bb = pre ++ .eos :: post → len ≤ passed + (dataBytes pre).length

theorem cons_eq_append_eos (h : b :: rest = pre ++ InBucket.eos :: post) :
    (pre = [] ∧ b = .eos) ∨ ∃ pre', pre = b :: pre' ∧ rest = pre' ++ .eos :: post := by
  cases pre with
  | nil => exact .inl ⟨rfl, (List.cons.inj h).1⟩
  | cons x pre' =>
    obtain ⟨rfl, hr⟩ := List.cons.inj h
    exact .inr ⟨pre', rfl, hr⟩

theorem EosBeyond.cons (h : EosBeyond len passed (b :: rest)) :
    EosBeyond len (passed + b.read.2.length) rest := fun pre post he => by
  have := h (b :: pre) post (by rw [he]; rfl)
  rw [dataBytes_cons, List.length_append] at this
  omega

theorem FeedMove.replay (h : FeedMove S len f f') (heos : EosBeyond len f.passed f.fin.finTlsBb)
    (hbuf : f.fin.finTlsBufferBb = some buf) :
    EosBeyond len f'.passed f'.fin.finTlsBb ∧ ∃ buf', f'.fin.finTlsBufferBb = some buf' ∧
      buf' ++ dataBytes f'.fin.finTlsBb = buf ++ dataBytes f.fin.finTlsBb := by
  cases h with
  | eos hp hbb => exact absurd (heos [] _ hbb) (by simpa [dataBytes] using hp)
  | skip _ hbb _ hread =>
    rw [hbb] at heos
    exact ⟨by simpa [hread] using heos.cons, buf, hbuf, by rw [hbb, dataBytes_cons, hread]; rfl⟩
  | readFailed | rustlsFailed => exact ⟨heos, buf, hbuf, rfl⟩
  | @feed _ b rest data rlen _ _ hbb _ hread =>
    rw [hbb] at heos
    have hrest : EosBeyond len (f.passed + data.length) rest := by simpa [hread] using heos.cons
    refine ⟨fun pre post he => ?_, buf ++ data.take rlen, by simp [hbuf], ?_⟩
    · dsimp only at he ⊢
      split_ifs at he with hl
      · have := hrest pre post he
        omega
      · rcases cons_eq_append_eos he with ⟨-, hb⟩ | ⟨pre', rfl, hr⟩
        · cases hb
        · have := hrest pre' post hr
          simp only [dataBytes_cons, InBucket.read, List.length_append, List.length_drop] at this ⊢
          omega
    rw [hbb, dataBytes_cons, hread, List.append_assoc]
    dsimp only
    split_ifs with hl
    · rw [List.take_of_length_le hl]
    · rw [show dataBytes (.data (data.drop rlen) :: rest) = data.drop rlen ++ dataBytes rest
        from rfl, ← List.append_assoc (data.take rlen), List.take_append_drop]

theorem feedLoop_replay {S : ServerSession σ} (h : feedLoop S len fuel f = .ok (exit, f'))
    (heos : EosBeyond len f.passed f.fin.finTlsBb) (hbuf : f.fin.finTlsBufferBb = some buf) :
    ∃ buf', f'.fin.finTlsBufferBb = some buf' ∧
      buf' ++ dataBytes f'.fin.finTlsBb = buf ++ dataBytes f.fin.finTlsBb :=
  (reflTransGen_invariant (fun g => EosBeyond len g.passed g.fin.finTlsBb ∧ ∃ buf',
      g.fin.finTlsBufferBb = some buf' ∧ buf' ++ dataBytes g.fin.finTlsBb = buf ++ dataBytes f.fin.finTlsBb)
    (fun hm ⟨heos, _, hbuf, he⟩ =>
      let ⟨heos', buf', hbuf', he'⟩ := hm.replay heos hbuf
      ⟨heos', buf', hbuf', he'.trans he⟩)
    (feedLoop_moves h) ⟨heos, buf, hbuf, rfl⟩).2

/-- The brigade `read_tls_to_rustls` works on: `fin_tls_bb`, or the network's when that is empty. -/
def incomingTls (E : Env σ ν) (len : Nat) (fin : FinCtx) (net : ν) : List InBucket :=
  if fin.finTlsBb = [] then (E.getBrigade net fin.finBlock len).2.1 else fin.finTlsBb

/-- A session whose first three records are the handshake flight and later bytes one-byte records. -/
structure RecordSession where
  tlsIn : List UInt8
  handshake : Nat
  plain : List UInt8
  deriving DecidableEq, Repr

/-- `RecordSession`s over filters below that answer `ap_get_brigade` from a script. -/
def recordEnv : Env RecordSession (List (AprStatus × List InBucket)) where
  isHandshaking s := s.handshake < 3
  wantsRead _ := true
  wantsWrite _ := false
  readTls s data := (.ok, data.length, { s with tlsIn := s.tlsIn ++ data })
  processNewPackets s := (.ok,
    { tlsIn := [], handshake := s.handshake + min (3 - s.handshake) s.tlsIn.length,
      plain := s.plain ++ s.tlsIn.drop (3 - s.handshake) })
  read s n := (.ok, s.plain.take n, { s with plain := s.plain.drop n })
  write s data := (.ok, data.length, s)
  writeTls s _ := (.ok, [], s)
  sendCloseNotify s := s
  readTls_le _ _ := le_refl _
  read_le s n := List.length_take_le n s.plain
  write_le _ _ := le_refl _
  writeTls_le _ _ := Nat.zero_le _
  getBrigade n _ _ := match n with
    | r :: rest => (r.1, r.2, rest)
    | [] => (.eof, [], [])
  passBrigade n _ := (.success, false, n)
  fileRead n bytes := (.success, bytes.length, n)
  fileRead_le _ _ := le_refl _
  clientHelloSeen s := 2 ≤ s.handshake
  connInitServer _ := (.success, ⟨[], 0, []⟩)
  connPostHandshake _ := .success

/-- The smallest limits: every size one byte, no record overhead. -/
def unitLimits : Limits :=
  ⟨1, 1, 0, 1, 1, 1, Nat.one_pos, Nat.one_pos, Nat.one_pos, Nat.one_pos⟩

/-- A connection of `recordEnv` whose client sends the given brigades. -/
def recordConn (L : Limits) (script : List (AprStatus × List InBucket)) :
    Conn RecordSession (List (AprStatus × List InBucket)) :=
  tlsFilterConnInit L ⟨[], 0, []⟩ script

/-- While sniffing, `read_tls_to_rustls` loses and repeats no byte of the brigade it works on. -/
theorem readTlsToRustls_replay
    (h : readTlsToRustls E len fuel fin session net = .ok (rv, fin', session', net'))
    (hbuf : fin.finTlsBufferBb = some buf) (heos : EosBeyond len 0 (incomingTls E len fin net)) :
    ∃ buf', fin'.finTlsBufferBb = some buf' ∧
      buf' ++ dataBytes fin'.finTlsBb = buf ++ dataBytes (incomingTls E len fin net) := by
  unfold readTlsToRustls at h
  unfold incomingTls at heos ⊢
  split_ifs at h heos ⊢ with he
  · rcases hg : E.getBrigade net fin.finBlock len with ⟨rv₀, bb, net₀⟩
    simp only [hg] at h heos ⊢
    split_ifs at h
    · cases h
      exact ⟨buf, hbuf, rfl⟩
    obtain ⟨⟨exit, f⟩, h₁, h⟩ := bind_eq_ok.mp h
    cases h
    exact feedLoop_replay h₁ heos hbuf
  · simp only [ne_eq, not_true_eq_false, if_false] at h
    obtain ⟨⟨exit, f⟩, h₁, h⟩ := bind_eq_ok.mp h
    cases h
    exact feedLoop_replay h₁ heos hbuf

theorem readTlsToRustls_replay_before_eos :
    readTlsToRustls recordEnv 2 2 { (recordConn unitLimits []).fin with finTlsBufferBb := some [] }
        ⟨[], 0, []⟩ [(.success, [.data [22, 22], .eos])] =
      .ok (.success, { (recordConn unitLimits []).fin with
        finTlsBb := [.eos], finTlsBufferBb := some [22, 22], finBytesInRustls := 2 }, ⟨[], 2, []⟩, []) ∧
    EosBeyond 2 0 (incomingTls recordEnv 2 { (recordConn unitLimits []).fin with finTlsBufferBb := some [] }
      [(.success, [.data [22, 22], .eos])]) ∧
    [22, 22] ++ dataBytes [InBucket.eos] = [] ++ dataBytes (incomingTls recordEnv 2
      { (recordConn unitLimits []).fin with finTlsBufferBb := some [] } [(.success, [.data [22, 22], .eos])]) :=
  have h : readTlsToRustls recordEnv 2 2 { (recordConn unitLimits []).fin with finTlsBufferBb := some [] }
      ⟨[], 0, []⟩ [(.success, [.data [22, 22], .eos])] =
    .ok (.success, { (recordConn unitLimits []).fin with
      finTlsBb := [.eos], finTlsBufferBb := some [22, 22], finBytesInRustls := 2 }, ⟨[], 2, []⟩, []) := rfl
  have he : EosBeyond 2 0 (incomingTls recordEnv 2 { (recordConn unitLimits []).fin with finTlsBufferBb := some [] }
      [(.success, [.data [22, 22], .eos])]) := fun pre post hp => by
    rcases cons_eq_append_eos hp with ⟨-, hb⟩ | ⟨pre', rfl, -⟩
    · cases hb
    · simp [dataBytes]
  let ⟨_, hbuf, hdata⟩ := readTlsToRustls_replay h rfl he
  ⟨h, he, Option.some.inj hbuf ▸ hdata⟩

section Stall

variable {S : ServerSession σ}

theorem feedLoop_stalls (hS : ∀ s data, S.readTls s data = (.ok, 0, s))
    (hbs : bs ≠ []) (f : Feed σ) (hf : f.fin.finTlsBb = .data bs :: rest)
    (hp : f.passed < len) : feedLoop S len fuel f = .error .outOfFuel := by
  induction fuel generalizing f with
  | zero => rfl
  | succ fuel ih =>
    have hlen : 0 < bs.length := List.length_pos.mpr hbs
    simp only [feedLoop, hf, hp, if_true, InBucket.read, hS, reduceCtorEq, if_false, hlen,
      Nat.add_zero, List.drop_zero, Nat.le_zero, List.length_eq_zero, hbs, ne_eq,
      not_true_eq_false]
    exact ih _ rfl hp

end Stall

/-- A session and filters below that accept, produce and deliver nothing. -/
def stallEnv : Env Unit Unit where
  isHandshaking _ := false
  wantsRead _ := false
  wantsWrite _ := false
  readTls s _ := (.ok, 0, s)
  processNewPackets s := (.ok, s)
  read s _ := (.ok, [], s)
  write s _ := (.ok, 0, s)
  writeTls s _ := (.ok, [], s)
  sendCloseNotify s := s
  readTls_le _ _ := Nat.zero_le _
  read_le _ _ := Nat.zero_le _
  write_le _ _ := Nat.zero_le _
  writeTls_le _ _ := Nat.zero_le _
  getBrigade n _ _ := (.eof, [], n)
  passBrigade n _ := (.success, false, n)
  fileRead n _ := (.eof, 0, n)
  fileRead_le _ _ := Nat.zero_le _
  clientHelloSeen _ := false
  connInitServer s := (.success, s)
  connPostHandshake _ := .success

/-- A session that takes no byte keeps `read_tls_to_rustls` looping for every fuel. -/
theorem readTlsToRustls_stalled_session (L : Limits) (fuel : Nat) :
    let fin := { (tlsFilterConnInit L () ()).fin with finTlsBb := [.data [0x16]] }
    readTlsToRustls stallEnv fin.finMaxInRustls fuel fin () () = .error .outOfFuel := by
  have hp : 0 < 2 * L.prefTlsWriteSize := by have := L.prefTlsWriteSize_pos; omega
  simp only [readTlsToRustls, tlsFilterConnInit, reduceCtorEq, if_false, ne_eq,
    not_true_eq_false]
  rw [feedLoop_stalls (fun _ _ => rfl) (List.cons_ne_nil _ _) _ rfl hp]
  rfl

section Progress

variable {S : ServerSession σ}

/-- The passes the feeding loop can make while each takes a byte: one per bucket and data byte. -/
def feedBound (bb : List InBucket) : Nat := bb.length + (dataBytes bb).length

theorem feedBound_cons : feedBound (b :: bb) = feedBound bb + 1 + b.read.2.length := by
  simp only [feedBound, List.length_cons, dataBytes_cons, List.length_append]
  omega

theorem feedLoop_ne_outOfFuel
    (hS : ∀ s data, data ≠ [] → (S.readTls s data).1 = .ok → 0 < (S.readTls s data).2.1)
    (f : Feed σ) (hfuel : feedBound f.fin.finTlsBb < fuel) :
    feedLoop S len fuel f ≠ .error .outOfFuel := by
  induction fuel generalizing f with
  | zero => omega
  | succ fuel ih =>
    rw [feedLoop]
    split
    · nofun
    next b rest hbb =>
    rcases hread : b.read with ⟨rv, data⟩
    have hb : feedBound rest + 1 + data.length < fuel + 1 := by
      rw [hbb, feedBound_cons, hread] at hfuel
      exact hfuel
    simp only [hread]
    split_ifs with hp he heof hrv hd
    · rcases hbuf : f.fin.finTlsBufferBb with _ | buf <;> simp [aprBrigadeCleanup, hbuf]
    · exact ih _ (by dsimp only; omega)
    · nofun
    · split
      · nofun
      next rlen session hs =>
      have hr : 0 < rlen := by
        simpa [hs] using hS f.session data (List.ne_nil_of_length_pos hd)
      refine ih _ ?_
      dsimp only
      split_ifs
      · omega
      · rw [feedBound_cons]
        simp only [InBucket.read, List.length_drop]
        omega
    · exact ih _ (by dsimp only; omega)
    · nofun

theorem bind_ne_error {x : Except ε α} {k : α → Except ε β} (hx : x ≠ .error e)
    (hk : ∀ a, k a ≠ .error e) : x >>= k ≠ .error e := by
  cases x with
  | error e' => simpa using hx
  | ok a => exact hk a

/-- A session that takes a byte of every offer lets `read_tls_to_rustls` return with `feedBound` fuel. -/
theorem readTlsToRustls_returns {E : Env σ ν}
    (hS : ∀ s data, data ≠ [] → (E.readTls s data).1 = .ok → 0 < (E.readTls s data).2.1)
    (hfuel : feedBound (incomingTls E len fin net) < fuel) :
    readTlsToRustls E len fuel fin session net ≠ .error .outOfFuel := by
  unfold readTlsToRustls
  unfold incomingTls at hfuel
  split_ifs at hfuel ⊢ with he
  · rcases hg : E.getBrigade net fin.finBlock len with ⟨rv₀, bb, net₀⟩
    simp only [hg] at hfuel ⊢
    split_ifs
    · nofun
    · exact bind_ne_error (feedLoop_ne_outOfFuel hS _ hfuel) fun _ => by split <;> nofun
  · simp only [ne_eq, not_true_eq_false, if_false]
    exact bind_ne_error (feedLoop_ne_outOfFuel hS _ hfuel) fun _ => by split <;> nofun

end Progress

/-- A call on a two-byte brigade returns with three passes of fuel. -/
theorem readTlsToRustls_returns_record :
    (∀ s data, data ≠ [] → (recordEnv.readTls s data).1 = .ok → 0 < (recordEnv.readTls s data).2.1) ∧
      feedBound (incomingTls recordEnv 2 (recordConn unitLimits []).fin [(.success, [.data [22, 22]])]) < 4 ∧
      readTlsToRustls recordEnv 2 4 (recordConn unitLimits []).fin ⟨[], 0, []⟩
        [(.success, [.data [22, 22]])] ≠ .error .outOfFuel :=
  have hS : ∀ s data, data ≠ [] → (recordEnv.readTls s data).1 = .ok →
      0 < (recordEnv.readTls s data).2.1 := fun _ _ hd _ => List.length_pos.mpr hd
  ⟨hS, by decide, readTlsToRustls_returns hS (by decide)⟩

end ModTls
