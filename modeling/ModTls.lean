import ModTls.Basic
import ModTls.Conn
import ModTls.Phase
import ModTls.ReadTls
import ModTls.TlsOut
import ModTls.Output
import ModTls.OutputSteps
import ModTls.Handshake
import ModTls.Input
import ModTls.System
import ModTls.Core
import ModTls.Bounds
import ModTls.Plaintext
import ModTls.TlsStream
import ModTls.PlainStream
import ModTls.Delivery
import ModTls.TlsInStream
import ModTls.Var
import ModTls.Hooks
