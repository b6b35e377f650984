import RobotWorkshop.Fault

/-!
The balance of gears.
-/

namespace RobotWorkshop

structure Wallet where
  balance : Int := 0
deriving DecidableEq, Repr

namespace Wallet

def new? (balance : Int) : Except Fault Wallet :=
  if balance < 0 then .error .negativeBalance else .ok { balance }

/-- Adds a positive amount. -/
def deposit? (w : Wallet) (amount : Int) : Except Fault Wallet :=
  if amount ≤ 0 then .error (.ofRefusal (.deposit amount))
  else .ok { w with balance := w.balance + amount }

def canAfford (w : Wallet) (cost : Int) : Bool := cost ≤ w.balance

def spend? (w : Wallet) (cost : Int) : Except Fault Wallet :=
  if w.canAfford cost then .ok { w with balance := w.balance - cost }
  else .error (.ofRefusal (.insufficient w.balance cost))

theorem deposit?_refuses {w : Wallet} {amount : Int} {fault : Fault}
    (h : w.deposit? amount = .error fault) : fault.Refuses := by
  unfold deposit? at h
  split at h
  · exact Except.error.inj h ▸ Fault.ofRefusal_refuses _
  · cases h

theorem spend?_refuses {w : Wallet} {cost : Int} {fault : Fault}
    (h : w.spend? cost = .error fault) : fault.Refuses := by
  unfold spend? at h
  split at h
  · cases h
  · exact Except.error.inj h ▸ Fault.ofRefusal_refuses _

end Wallet

end RobotWorkshop
