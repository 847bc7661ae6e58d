import PowerLimits.Device.Basic
import PowerLimits.Store.Register

/-!
Register devices in a tree of files, as a store. Every access to a register is noted.
-/
namespace PowerLimits.Device

instance : RegisterStore FileTree Device where
  cpu _ device := device.cpu
  read := Device.read
  write := Device.write
  close tree _ := (tree, none)
  readEvents device register value := [.registerRead device.cpu register value]
  writeEvents device register value := [.registerWrite device.cpu register value]
  closeEvents device := [.deviceClosed device.path device.cpu]

def openSocket (root : String) (readOnly : Bool) (socket cpu : Nat) :
    Action FileTree Error Device := do
  match openFor (← Action.look) root cpu readOnly with
  | .ok device =>
    Action.note device.openEvents
    return device
  | .error source => Action.fail (.resourceUnavailable socket cpu source)

end PowerLimits.Device
