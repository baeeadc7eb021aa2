import ModTls.System
import ModTls.Core

namespace ModTls
set_option autoImplicit true

/-- The part of a `tls_conf_conn_t` the hooks read and set, with the filter context attached. -/
structure ConfConn (σ ν : Type) where
  flagDisabled : TlsFlag
  rustlsSession : Option σ
  filterCtx : Option (Conn σ ν)

/-- A `conn_rec` as the hooks see it: `c->master`, its `tls_conf_conn_t`, the server flag, filters. -/
structure ConnRec (σ ν : Type) where
  master : Bool
  conf : Option (ConfConn σ ν)
  serverEnabled : TlsFlag
  net : ν

/-- `tls_core_conn_init`: `OK` on a server with TLS enabled; the record it makes is not attached. -/
def tlsCoreConnInit (c : ConnRec σ ν) : HookResult :=
  if c.serverEnabled ≠ .true then .declined else .ok

/-- `tls_filter_conn_init` from `hook_pre_connection`: its `ap_assert`s, then the context. -/
def ConnRec.tlsFilterConnInit (L : Limits) (c : ConnRec σ ν) :
    Except Fault (HookResult × ConnRec σ ν) :=
  match c.conf with
  | none => .error .assertFailed
  | some cc =>
    match cc.rustlsSession with
    | none => .error .assertFailed
    | some s =>
      .ok (.ok, { c with conf := some { cc with filterCtx := some (ModTls.tlsFilterConnInit L s c.net) } })

/-- `hook_pre_connection`. -/
def hookPreConnection (L : Limits) (c : ConnRec σ ν) : Except Fault (HookResult × ConnRec σ ν) :=
  if c.master then .ok (.declined, c)
  else if c.conf.map ConfConn.flagDisabled = some .true then .ok (.declined, c)
  else
    match tlsCoreConnInit c with
    | .ok => c.tlsFilterConnInit L
    | .declined => .ok (.declined, c)

/-- `hook_connection`: one blocking `AP_MODE_INIT` read of the input filters, answering `DECLINED`. -/
def hookConnection (L : Limits) (E : Env σ ν) (fuel : Nat) (c : ConnRec σ ν) :
    Except Fault (HookResult × ConnRec σ ν) :=
  match c.conf with
  | some cc =>
    if cc.rustlsSession.isSome then
      match cc.filterCtx with
      | some f => do
        let (_, _, f) ← filterConnInput L E fuel f .init .block 0
        return (.declined, { c with conf := some { cc with filterCtx := some f } })
      | none => .ok (.declined, c)
    else .ok (.declined, c)
  | none => .ok (.declined, c)

theorem hookPreConnection_reachable {c c' : ConnRec σ ν} (h : hookPreConnection L c = .ok (.ok, c')) :
    ∃ cc f, c'.conf = some cc ∧ cc.filterCtx = some f ∧ ∀ E : Env σ ν, Reachable L E f := by
  unfold hookPreConnection tlsCoreConnInit ConnRec.tlsFilterConnInit at h
  split_ifs at h <;> try cases h
  rcases hc : c.conf with _ | ⟨disabled, _ | s, ctx⟩ <;> rw [hc] at h <;> cases h
  exact ⟨_, _, rfl, rfl, fun _ => .init s c.net⟩

theorem hookConnection_reaches (h : hookConnection L E fuel c = .ok (rv, c'))
    (hc : c.conf = some cc) (hf : cc.filterCtx = some f) :
    rv = .declined ∧ ∃ f', c'.conf.bind ConfConn.filterCtx = some f' ∧ Reaches L E f f' := by
  simp only [hookConnection, hc] at h
  split_ifs at h
  · rw [hf] at h
    obtain ⟨⟨rv₀, out, f'⟩, hi, he⟩ := bind_eq_ok.mp h
    cases he
    exact ⟨rfl, f', rfl, .call .refl (show connCall L E fuel f (.input .init .block 0) = .ok (rv₀, f') by
      simp [connCall, hi])⟩
  · cases h
    exact ⟨rfl, f, by simp [hc, hf], .refl⟩

end ModTls
