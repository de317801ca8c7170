import RaspiServer.Library.Stuffing
import RaspiServer.Board.Crc
import RaspiServer.Board.Frame
import RaspiServer.Otp.Base32
import RaspiServer.Otp.Totp
import RaspiServer.Otp.Manager
import RaspiServer.Server.Json
import RaspiServer.Server.Db
import RaspiServer.Server.Auth
import RaspiServer.Server.AuthProperties
import RaspiServer.Library.Interleaving
import RaspiServer.Server.Client
import RaspiServer.Server.Framing
import RaspiServer.Library.Delimited
import RaspiServer.Metadata.Splitter
import RaspiServer.Server.LineSync
import RaspiServer.Library.Fifo
import RaspiServer.Metadata.BboxBuffer
import RaspiServer.Library.BitReverse
import RaspiServer.Board.CrcArc
import RaspiServer.Board.Ack
import RaspiServer.Metadata.Display
import RaspiServer.Server.BboxPush
import RaspiServer.Library.Base64
import RaspiServer.Server.Utils
import RaspiServer.Metadata.Reload
import RaspiServer.Library.ArgMin
import RaspiServer.Metadata.Risk
import RaspiServer.Metadata.Tracking
import RaspiServer.Otp.Uri
