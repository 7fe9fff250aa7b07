import PlxHw.Basic.MachineWords
import PlxHw.ALut.Layout
import PlxHw.ALut.Manager
import PlxHw.ALut.Entry
import PlxHw.ALut.Session
import PlxHw.ALut.Invariant
import PlxHw.ALut.RoundTrip
import PlxHw.Eeprom.Crc
import PlxHw.Eeprom.Controller
import PlxHw.Eeprom.Update
import PlxHw.Eeprom.Image
import PlxHw.Eeprom.Loads
import PlxHw.Gpio.Interleaving
import PlxHw.Gpio.NodeControl
import PlxHw.Dma.ConfigFile
import PlxHw.Dma.ReadMapped
import PlxHw.HwInit
import PlxHw.Eeprom.Interrupted
import PlxHw.Ntb.Doorbell
import PlxHw.Ntb.Registers
import PlxHw.PciWalk
