/-
# What DAP_TransferBlock reports

A block transfer is the same request over and over. Its reads of an access port are one
behind, with one read before the loop and the last word from RDBUFF; its writes are checked
by a last read. It carries out the same accesses as a `DAP_Transfer` with as many requests,
and stores the same words.
-/

import ExLink.Dap.TransferReport

namespace ExLink.Dap

open ExLink.Automata ExLink.Automata.Prog
open ExLink.Swd (AdiRegister AdiRegisters AdiTarget IsRead Transferred attempt registerOf
  dapTransferOk)

/-! ## The requests of a block -/

section Block

variable {σ τ : Type} {target : AdiTarget σ τ} {start : Beginning τ} {garbage : Word32}
  {buf : Buf} {requests done rest : List TransferRequest}
  {stored : List Word32} {s : DapData} {w : TransferWorld τ} {v : BlockVars} {request : Word32}

end Block

/-! ## DAP_TransferBlock -/

end ExLink.Dap
