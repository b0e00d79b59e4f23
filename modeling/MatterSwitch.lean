import MatterSwitch.Transition.Run
import MatterSwitch.Transition.Latch
import MatterSwitch.Transition.OneShot
import MatterSwitch.Transition.Ramp
import MatterSwitch.Transition.Registers
import MatterSwitch.Transition.Debounce
import MatterSwitch.Transition.Ranking
import MatterSwitch.Transition.Noninterference
import MatterSwitch.Transition.Loop
import MatterSwitch.Transition.Reduction
import MatterSwitch.Model.Hardware
import MatterSwitch.Model.SliderDriver
import MatterSwitch.Model.IODriver
import MatterSwitch.Model.Scheduler
import MatterSwitch.Verification.Slider.Equations
import MatterSwitch.Verification.Slider.Gate
import MatterSwitch.Verification.Slider.Fade
import MatterSwitch.Verification.Slider.Calls
import MatterSwitch.Verification.Device.Equations
import MatterSwitch.Verification.Light.Machine
import MatterSwitch.Verification.Light.Refinement
import MatterSwitch.Verification.Light.Safety
import MatterSwitch.Verification.Command.Equations
import MatterSwitch.Verification.Command.Power
import MatterSwitch.Verification.Command.Level
import MatterSwitch.Verification.Command.Alarm
import MatterSwitch.Verification.Command.Leds
import MatterSwitch.Verification.Command.Bar
import MatterSwitch.Verification.Command.Touch
import MatterSwitch.Verification.Command.Journal
import MatterSwitch.Verification.Command.Debounce
import MatterSwitch.Verification.Command.Release
import MatterSwitch.Verification.Command.Idle
import MatterSwitch.Verification.Task.Grain
import MatterSwitch.Verification.Task.Presses
import MatterSwitch.Verification.Task.Races
import MatterSwitch.Verification.Task.Progress
import MatterSwitch.Verification.Task.Driver
import MatterSwitch.Verification.Task.Display
import MatterSwitch.Verification.Task.Dimming
import MatterSwitch.Verification.Task.Movers
import MatterSwitch.Verification.Task.Serial
import MatterSwitch.Verification.Task.Releases
import MatterSwitch.Verification.Command.HalfCycles
import MatterSwitch.Verification.Controller.Machine
import MatterSwitch.Verification.Controller.Independence
