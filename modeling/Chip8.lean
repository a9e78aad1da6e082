import Chip8.Display.Empty
import Chip8.Folder
import Chip8.Main
import Chip8.Proofs.ControlLoop.Breakpoints
import Chip8.Proofs.ControlLoop.FreeRun
import Chip8.Proofs.ControlLoop.Paced
import Chip8.Proofs.ControlLoop.Presented
import Chip8.Proofs.ControlLoop.SingleStep
import Chip8.Proofs.Disassembly
import Chip8.Proofs.Display.Superposition
import Chip8.Proofs.Operation
import Chip8.Proofs.Vm.Arithmetic
import Chip8.Proofs.Vm.CallStack
import Chip8.Proofs.Vm.Destination
import Chip8.Proofs.Vm.Outcome
import Chip8.Proofs.Vm.ReadLog
import Chip8.Proofs.Vm.Undo
import Chip8.Proofs.Vm.Restart
import Chip8.Proofs.Memory.History
import Chip8.Proofs.Instruction.Reading
import Chip8.Proofs.ControlLoop.Timers
import Chip8.Proofs.Host.View
import Chip8.Proofs.Host.Window
import Chip8.Proofs.Host.Keys
import Chip8.Proofs.Host.KeyMap
import Chip8.Proofs.Settings.OfFile
import Chip8.Proofs.Vm.WriteSet
import Chip8.Proofs.Vm.BlockTransfer
import Chip8.Proofs.Vm.KeyWait
import Chip8.Proofs.Debugger.Watchpoints
import Chip8.Proofs.ControlLoop.Session
import Chip8.Proofs.Report
import Chip8.Proofs.Settings.KeyMap
import Chip8.Proofs.Host.ControlKeys
import Chip8.Proofs.Vm.Glyph
import Chip8.Proofs.Settings.Fields
import Chip8.Proofs.Settings.Sections
import Chip8.Proofs.Startup
import Chip8.Proofs.ControlLoop.Polls
import Chip8.Proofs.Host.Painting
import Chip8.Proofs.Registers.Operations
import Chip8.Proofs.Settings.Integer
