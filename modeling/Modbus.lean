import Modbus.Bytes
import Modbus.Utilities
import Modbus.Pdu
import Modbus.Framer.Interface
import Modbus.Framer.Stream
import Modbus.Framer.Socket
import Modbus.Framer.Rtu
import Modbus.Framer.Ascii
import Modbus.Framer.Binary
import Modbus.Message.BitRead
import Modbus.Message.Factory
import Modbus.Transaction.Table
import Modbus.Transaction.Manager
import Modbus.Transaction.Transport
import Modbus.Transaction.Tcp
import Modbus.Transaction.Serial
import Modbus.Client.Async
import Modbus.Server.Async
import Modbus.Client.Common
