/-!
# Running scripts

Messages, faults, tasks and other scripts.
-/

namespace BuiltinWrappers.Script.Indented.Library

/-- Messages of several levels. -/
def messages : String := r#"
  |import os
  |import sys
  |import time
  |CRITICAL = FATAL = 50
  |ERROR = 40
  |WARNING = WARN = 30
  |INFO = 20
  |DEBUG = 10
  |NOTSET = 0
  |raiseExceptions = True
  |lastResort = None
  |_levels = dict([(50, 'CRITICAL'), (40, 'ERROR'), (30, 'WARNING'), (20, 'INFO'), (10, 'DEBUG'),
  |                (0, 'NOTSET')])
  |_numbers = dict(CRITICAL=50, FATAL=50, ERROR=40, WARN=30, WARNING=30, INFO=20, DEBUG=10,
  |                NOTSET=0)
  |
  |def getLevelName(level):
  |    if level in _levels:
  |        return _levels[level]
  |    if level in _numbers:
  |        return _numbers[level]
  |    return 'Level %s' % level
  |
  |def getLevelNamesMapping():
  |    return dict(_numbers)
  |
  |def addLevelName(level, levelName):
  |    _levels[level] = levelName
  |    _numbers[levelName] = level
  |
  |def _level(level):
  |    if isinstance(level, int):
  |        return level
  |    if str(level) == level:
  |        if level not in _numbers:
  |            raise ValueError('Unknown level: %r' % (level,))
  |        return _numbers[level]
  |    raise TypeError('Level not an integer or a valid string: %r' % (level,))
  |
  |class LogRecord:
  |    def __init__(self, name, level, pathname, lineno, msg, args, exc_info, func=None,
  |                 sinfo=None, **kwargs):
  |        self.name = name
  |        self.msg = msg
  |        if args and len(args) == 1 and isinstance(args[0], dict) and args[0]:
  |            args = args[0]
  |        self.args = args
  |        self.levelname = getLevelName(level)
  |        self.levelno = level
  |        self.pathname = pathname
  |        self.filename = os.path.basename(pathname)
  |        self.module = os.path.splitext(self.filename)[0]
  |        self.exc_info = exc_info
  |        self.exc_text = None
  |        self.stack_info = sinfo
  |        self.lineno = lineno
  |        self.funcName = func or '<module>'
  |        self.created = time.time()
  |        self.msecs = int((self.created - int(self.created)) * 1000) + 0.0
  |        self.relativeCreated = 1.0
  |        self.thread = 140000000000000
  |        self.threadName = 'MainThread'
  |        self.processName = 'MainProcess'
  |        self.process = os.getpid()
  |        self.taskName = None
  |    def __repr__(self):
  |        return '<LogRecord: %s, %s, %s, %s, "%s">' % (self.name, self.levelno, self.pathname,
  |                                                      self.lineno, self.msg)
  |    def getMessage(self):
  |        msg = str(self.msg)
  |        if self.args:
  |            msg = msg % self.args
  |        return msg
  |
  |def makeLogRecord(dict):
  |    record = LogRecord(None, 0, '', 0, '', (), None)
  |    record.__dict__.update(dict)
  |    return record
  |
  |class Formatter:
  |    default_time_format = '%Y-%m-%d %H:%M:%S'
  |    default_msec_format = '%s,%03d'
  |    def __init__(self, fmt=None, datefmt=None, style='%', validate=True, *, defaults=None):
  |        if style not in ('%', '$', chr(123)):
  |            raise ValueError('Style must be one of: %,' + chr(123) + ',$')
  |        self._style = style
  |        if fmt is None:
  |            fmt = '%(message)s'
  |            if style == '$':
  |                fmt = '$message'
  |            elif style != '%':
  |                fmt = chr(123) + 'message' + chr(125)
  |        self._fmt = fmt
  |        self.datefmt = datefmt
  |        self._defaults = defaults
  |    def usesTime(self):
  |        return 'asctime' in self._fmt
  |    def formatTime(self, record, datefmt=None):
  |        t = time.localtime(record.created)
  |        if datefmt:
  |            return time.strftime(datefmt, t)
  |        return self.default_msec_format % (time.strftime(self.default_time_format, t),
  |                                           record.msecs)
  |    def formatException(self, ei):
  |        return ei[0].__name__ + ': ' + str(ei[1])
  |    def formatMessage(self, record):
  |        values = dict(self._defaults or dict())
  |        values.update(record.__dict__)
  |        if self._style == '%':
  |            return self._fmt % values
  |        if self._style == '$':
  |            from string import Template
  |            return Template(self._fmt).substitute(**values)
  |        return self._fmt.format(**values)
  |    def format(self, record):
  |        record.message = record.getMessage()
  |        if self.usesTime():
  |            record.asctime = self.formatTime(record, self.datefmt)
  |        s = self.formatMessage(record)
  |        if record.exc_info:
  |            if s[-1:] != '\n':
  |                s += '\n'
  |            s += self.formatException(record.exc_info)
  |        return s
  |
  |class Filter:
  |    def __init__(self, name=''):
  |        self.name = name
  |    def filter(self, record):
  |        return not self.name or record.name == self.name \
  |            or record.name.startswith(self.name + '.')
  |
  |class Filterer:
  |    def __init__(self):
  |        self.filters = []
  |    def addFilter(self, filter):
  |        if filter not in self.filters:
  |            self.filters.append(filter)
  |    def removeFilter(self, filter):
  |        if filter in self.filters:
  |            self.filters.remove(filter)
  |    def filter(self, record):
  |        for f in self.filters:
  |            if not (f.filter(record) if hasattr(f, 'filter') else f(record)):
  |                return False
  |        return True
  |
  |class Handler(Filterer):
  |    def __init__(self, level=NOTSET):
  |        super().__init__()
  |        self._name = None
  |        self.level = _level(level)
  |        self.formatter = None
  |        _handlers.append(self)
  |    def get_name(self):
  |        return self._name
  |    def set_name(self, name):
  |        self._name = name
  |    name = property(get_name, set_name)
  |    def setLevel(self, level):
  |        self.level = _level(level)
  |    def format(self, record):
  |        return (self.formatter or _usual).format(record)
  |    def emit(self, record):
  |        raise NotImplementedError('emit must be implemented by Handler subclasses')
  |    def handle(self, record):
  |        if self.filter(record):
  |            self.emit(record)
  |            return True
  |        return False
  |    def setFormatter(self, fmt):
  |        self.formatter = fmt
  |    def flush(self):
  |        pass
  |    def close(self):
  |        if self in _handlers:
  |            _handlers.remove(self)
  |    def handleError(self, record):
  |        pass
  |    def acquire(self):
  |        pass
  |    def release(self):
  |        pass
  |
  |_handlers = []
  |_usual = Formatter()
  |
  |class StreamHandler(Handler):
  |    terminator = '\n'
  |    def __init__(self, stream=None):
  |        super().__init__()
  |        self.stream = sys.stderr if stream is None else stream
  |    def flush(self):
  |        if self.stream and hasattr(self.stream, 'flush'):
  |            self.stream.flush()
  |    def emit(self, record):
  |        try:
  |            text = self.format(record)
  |            self.stream.write(text + self.terminator)
  |            self.flush()
  |        except Exception:
  |            self.handleError(record)
  |    def setStream(self, stream):
  |        old = self.stream
  |        self.flush()
  |        self.stream = stream
  |        return old
  |
  |class FileHandler(StreamHandler):
  |    def __init__(self, filename, mode='a', encoding=None, delay=False, errors=None):
  |        self.baseFilename = os.path.abspath(filename)
  |        self.mode = mode
  |        self.encoding = encoding
  |        self.errors = errors
  |        Handler.__init__(self)
  |        self.stream = None if delay else self._open()
  |    def _open(self):
  |        return open(self.baseFilename, self.mode, encoding=self.encoding, errors=self.errors)
  |    def close(self):
  |        if self.stream:
  |            self.stream.close()
  |            self.stream = None
  |        super().close()
  |    def emit(self, record):
  |        if self.stream is None:
  |            self.stream = self._open()
  |        super().emit(record)
  |
  |class NullHandler(Handler):
  |    def handle(self, record):
  |        pass
  |    def emit(self, record):
  |        pass
  |
  |class Logger(Filterer):
  |    def __init__(self, name, level=NOTSET):
  |        super().__init__()
  |        self.name = name
  |        self.level = _level(level)
  |        self.parent = None
  |        self.propagate = True
  |        self.handlers = []
  |        self.disabled = False
  |    def setLevel(self, level):
  |        self.level = _level(level)
  |    def getEffectiveLevel(self):
  |        logger = self
  |        while logger:
  |            if logger.level:
  |                return logger.level
  |            logger = logger.parent
  |        return NOTSET
  |    def isEnabledFor(self, level):
  |        return not self.disabled and _disabled[0] < level and level >= self.getEffectiveLevel()
  |    def debug(self, msg, *args, **kwargs):
  |        self.log(DEBUG, msg, *args, **kwargs)
  |    def info(self, msg, *args, **kwargs):
  |        self.log(INFO, msg, *args, **kwargs)
  |    def warning(self, msg, *args, **kwargs):
  |        self.log(WARNING, msg, *args, **kwargs)
  |    warn = warning
  |    def error(self, msg, *args, **kwargs):
  |        self.log(ERROR, msg, *args, **kwargs)
  |    def exception(self, msg, *args, exc_info=True, **kwargs):
  |        self.log(ERROR, msg, *args, exc_info=exc_info, **kwargs)
  |    def critical(self, msg, *args, **kwargs):
  |        self.log(CRITICAL, msg, *args, **kwargs)
  |    fatal = critical
  |    def log(self, level, msg, *args, exc_info=None, extra=None, stack_info=False,
  |            stacklevel=1):
  |        if not self.isEnabledFor(level):
  |            return
  |        if exc_info:
  |            if isinstance(exc_info, BaseException):
  |                exc_info = (type(exc_info), exc_info, None)
  |            elif not isinstance(exc_info, tuple):
  |                exc_info = sys.exc_info()
  |            if exc_info[0] is None:
  |                exc_info = None
  |        record = LogRecord(self.name, level, sys.argv[0] or '<stdin>', 1, msg, args, exc_info)
  |        if extra is not None:
  |            for key in extra:
  |                setattr(record, key, extra[key])
  |        self.handle(record)
  |    def handle(self, record):
  |        if not self.disabled and self.filter(record):
  |            self.callHandlers(record)
  |    def addHandler(self, hdlr):
  |        if hdlr not in self.handlers:
  |            self.handlers.append(hdlr)
  |    def removeHandler(self, hdlr):
  |        if hdlr in self.handlers:
  |            self.handlers.remove(hdlr)
  |    def hasHandlers(self):
  |        logger = self
  |        while logger:
  |            if logger.handlers:
  |                return True
  |            logger = logger.parent if logger.propagate else None
  |        return False
  |    def callHandlers(self, record):
  |        logger = self
  |        found = 0
  |        while logger:
  |            for handler in logger.handlers:
  |                found += 1
  |                if record.levelno >= handler.level:
  |                    handler.handle(record)
  |            logger = logger.parent if logger.propagate else None
  |        if not found and record.levelno >= WARNING:
  |            sys.stderr.write(record.getMessage() + '\n')
  |    def getChild(self, suffix):
  |        if self is not root:
  |            suffix = self.name + '.' + suffix
  |        return getLogger(suffix)
  |    def __repr__(self):
  |        return '<%s %s (%s)>' % (type(self).__name__, self.name,
  |                                 getLevelName(self.getEffectiveLevel()))
  |
  |class RootLogger(Logger):
  |    def __init__(self, level):
  |        super().__init__('root', level)
  |
  |root = RootLogger(WARNING)
  |_loggers = dict()
  |_disabled = [0]
  |_class = [Logger]
  |
  |def setLoggerClass(klass):
  |    _class[0] = klass
  |
  |def getLoggerClass():
  |    return _class[0]
  |
  |def getLogger(name=None):
  |    if not name or isinstance(name, str) and name == 'root':
  |        return root
  |    if name not in _loggers:
  |        made = _loggers[name] = _class[0](name)
  |        made.parent = root
  |        for other in _loggers.values():
  |            if name.startswith(other.name + '.') and other is not made:
  |                if made.parent is root or len(other.name) > len(made.parent.name):
  |                    made.parent = other
  |        for other in _loggers.values():
  |            if other.name.startswith(name + '.'):
  |                if other.parent is root or len(other.parent.name) < len(name):
  |                    other.parent = made
  |    return _loggers[name]
  |
  |class LoggerAdapter:
  |    def __init__(self, logger, extra=None):
  |        self.logger = logger
  |        self.extra = extra
  |    def process(self, msg, kwargs):
  |        kwargs['extra'] = self.extra
  |        return msg, kwargs
  |    def log(self, level, msg, *args, **kwargs):
  |        msg, kwargs = self.process(msg, kwargs)
  |        self.logger.log(level, msg, *args, **kwargs)
  |    def debug(self, msg, *args, **kwargs):
  |        self.log(DEBUG, msg, *args, **kwargs)
  |    def info(self, msg, *args, **kwargs):
  |        self.log(INFO, msg, *args, **kwargs)
  |    def warning(self, msg, *args, **kwargs):
  |        self.log(WARNING, msg, *args, **kwargs)
  |    def error(self, msg, *args, **kwargs):
  |        self.log(ERROR, msg, *args, **kwargs)
  |    def critical(self, msg, *args, **kwargs):
  |        self.log(CRITICAL, msg, *args, **kwargs)
  |
  |BASIC_FORMAT = '%(levelname)s:%(name)s:%(message)s'
  |
  |def basicConfig(*, filename=None, filemode='a', format=None, datefmt=None, style='%',
  |                level=None, stream=None, handlers=None, force=False, encoding=None,
  |                errors='backslashreplace'):
  |    if force:
  |        for h in root.handlers[:]:
  |            root.removeHandler(h)
  |            h.close()
  |    if root.handlers:
  |        return
  |    if handlers is None:
  |        if filename:
  |            handlers = [FileHandler(filename, filemode, encoding=encoding, errors=errors)]
  |        else:
  |            handlers = [StreamHandler(stream)]
  |    elif stream is not None or filename is not None:
  |        raise ValueError("'stream' or 'filename' should not be specified together with "
  |                         "'handlers'")
  |    usual = BASIC_FORMAT
  |    if style == '$':
  |        usual = '$levelname:$name:$message'
  |    made = Formatter(format if format is not None else usual, datefmt, style)
  |    for h in handlers:
  |        if h.formatter is None:
  |            h.setFormatter(made)
  |        root.addHandler(h)
  |    if level is not None:
  |        root.setLevel(level)
  |
  |def _ready():
  |    if not root.handlers:
  |        basicConfig()
  |
  |def debug(msg, *args, **kwargs):
  |    _ready()
  |    root.debug(msg, *args, **kwargs)
  |
  |def info(msg, *args, **kwargs):
  |    _ready()
  |    root.info(msg, *args, **kwargs)
  |
  |def warning(msg, *args, **kwargs):
  |    _ready()
  |    root.warning(msg, *args, **kwargs)
  |
  |warn = warning
  |
  |def error(msg, *args, **kwargs):
  |    _ready()
  |    root.error(msg, *args, **kwargs)
  |
  |def exception(msg, *args, exc_info=True, **kwargs):
  |    _ready()
  |    root.error(msg, *args, exc_info=exc_info, **kwargs)
  |
  |def critical(msg, *args, **kwargs):
  |    _ready()
  |    root.critical(msg, *args, **kwargs)
  |
  |fatal = critical
  |
  |def log(level, msg, *args, **kwargs):
  |    _ready()
  |    root.log(level, msg, *args, **kwargs)
  |
  |def disable(level=CRITICAL):
  |    _disabled[0] = level
  |
  |def captureWarnings(capture):
  |    pass
  |
  |def shutdown():
  |    for h in list(_handlers):
  |        h.flush()
  |        h.close()"#

def messageFiles : String := r#"
  |from logging import *
  |from logging import StreamHandler, FileHandler
  |
  |class MemoryHandler(StreamHandler):
  |    pass
  |
  |class RotatingFileHandler(FileHandler):
  |    def __init__(self, filename, mode='a', maxBytes=0, backupCount=0, encoding=None,
  |                 delay=False, errors=None):
  |        super().__init__(filename, mode, encoding, delay, errors)"#

/-- Texts of faults. -/
def faultTexts : String := r#"
  |import sys
  |
  |def format_exception_only(exc, value=None, **rest):
  |    if value is not None:
  |        exc = value
  |    if isinstance(exc, type):
  |        return [exc.__name__ + '\n']
  |    kind = type(exc)
  |    name = kind.__name__
  |    if kind.__module__ not in ('__main__', 'builtins'):
  |        name = kind.__module__ + '.' + name
  |    text = str(exc)
  |    return [name + ': ' + text + '\n' if text else name + '\n']
  |
  |def format_exception(exc, value=None, tb=None, limit=None, chain=True, **rest):
  |    if value is not None:
  |        exc = value
  |    return ['Traceback (most recent call last):\n'] + format_exception_only(exc)
  |
  |def print_exception(exc, value=None, tb=None, limit=None, file=None, chain=True):
  |    for line in format_exception(exc, value):
  |        print(line, file=file or sys.stderr, end='')
  |
  |def format_exc(limit=None, chain=True):
  |    value = sys.exc_info()[1]
  |    if value is None:
  |        return 'NoneType: None\n'
  |    return ''.join(format_exception(value))
  |
  |def print_exc(limit=None, file=None, chain=True):
  |    print(format_exc(), file=file or sys.stderr, end='')
  |
  |def format_tb(tb, limit=None):
  |    return []
  |
  |def print_tb(tb, limit=None, file=None):
  |    pass
  |
  |def extract_tb(tb, limit=None):
  |    return []
  |
  |def extract_stack(f=None, limit=None):
  |    return []
  |
  |def format_stack(f=None, limit=None):
  |    return []
  |
  |def print_stack(f=None, limit=None, file=None):
  |    pass
  |
  |def walk_tb(tb):
  |    return iter(())"#

/-- Warnings. -/
def cautions : String := r#"
  |import sys
  |filters = []
  |
  |class catch_warnings:
  |    def __init__(self, *, record=False, module=None, action=None, category=Warning, **rest):
  |        self._record = record
  |        self._action = action
  |        self._category = category
  |    def __enter__(self):
  |        self._before = list(filters), _log[0]
  |        if self._action is not None:
  |            simplefilter(self._action, self._category)
  |        if self._record:
  |            _log[0] = []
  |            return _log[0]
  |    def __exit__(self, *rest):
  |        filters[:] = self._before[0]
  |        _log[0] = self._before[1]
  |
  |_log = [None]
  |
  |class WarningMessage:
  |    def __init__(self, message, category, filename, lineno):
  |        self.message = message
  |        self.category = category
  |        self.filename = filename
  |        self.lineno = lineno
  |
  |def simplefilter(action, category=Warning, lineno=0, append=False):
  |    filters.insert(0, (action, category))
  |
  |def filterwarnings(action, message='', category=Warning, module='', lineno=0, append=False):
  |    filters.insert(0, (action, category))
  |
  |def resetwarnings():
  |    filters[:] = []
  |
  |def formatwarning(message, category, filename, lineno, line=None):
  |    return '%s:%s: %s: %s\n' % (filename, lineno, category.__name__, message)
  |
  |def showwarning(message, category, filename, lineno, file=None, line=None):
  |    (file or sys.stderr).write(formatwarning(message, category, filename, lineno))
  |
  |def warn(message, category=None, stacklevel=1, source=None, **rest):
  |    if isinstance(message, Warning):
  |        category = type(message)
  |    category = category or UserWarning
  |    if not isinstance(message, Warning):
  |        message = category(message)
  |    for action, kind in filters:
  |        if issubclass(category, kind):
  |            if action == 'ignore':
  |                return
  |            if action == 'error':
  |                raise message
  |            break
  |    if _log[0] is not None:
  |        _log[0].append(WarningMessage(message, category, sys.argv[0], 1))
  |    else:
  |        showwarning(message, category, sys.argv[0], 1)
  |
  |def warn_explicit(message, category, filename, lineno, **rest):
  |    warn(message, category)"#

def lastActs : String := r#"
  |_asked = []
  |
  |def register(func, /, *args, **kwargs):
  |    _asked.append((func, args, kwargs))
  |    return func
  |
  |def unregister(func):
  |    _asked[:] = [entry for entry in _asked if entry[0] != func]
  |
  |def _clear():
  |    del _asked[:]
  |
  |def _run_exitfuncs():
  |    while _asked:
  |        func, args, kwargs = _asked.pop()
  |        try:
  |            func(*args, **kwargs)
  |        except Exception:
  |            pass
  |
  |def _ncallbacks():
  |    return len(_asked)"#

/-- Tasks, each done when it is started. -/
def threads : String := r#"
  |class _Lock:
  |    def __init__(self):
  |        self._held = 0
  |    def acquire(self, blocking=True, timeout=-1):
  |        self._held += 1
  |        return True
  |    def release(self):
  |        if not self._held:
  |            raise RuntimeError('release unlocked lock')
  |        self._held -= 1
  |    def locked(self):
  |        return self._held > 0
  |    def __enter__(self):
  |        self.acquire()
  |        return True
  |    def __exit__(self, *rest):
  |        self.release()
  |
  |def Lock():
  |    return _Lock()
  |
  |RLock = Lock
  |
  |class Semaphore(_Lock):
  |    def __init__(self, value=1):
  |        super().__init__()
  |        self._value = value
  |    def release(self, n=1):
  |        self._held -= n
  |
  |BoundedSemaphore = Semaphore
  |
  |class Condition(_Lock):
  |    def __init__(self, lock=None):
  |        super().__init__()
  |    def wait(self, timeout=None):
  |        return True
  |    def wait_for(self, predicate, timeout=None):
  |        return predicate()
  |    def notify(self, n=1):
  |        pass
  |    def notify_all(self):
  |        pass
  |
  |class Event:
  |    def __init__(self):
  |        self._flag = False
  |    def is_set(self):
  |        return self._flag
  |    def set(self):
  |        self._flag = True
  |    def clear(self):
  |        self._flag = False
  |    def wait(self, timeout=None):
  |        return self._flag
  |
  |class Barrier:
  |    def __init__(self, parties, action=None, timeout=None):
  |        self.parties = parties
  |    def wait(self, timeout=None):
  |        return 0
  |
  |_count = [0]
  |
  |class Thread:
  |    def __init__(self, group=None, target=None, name=None, args=(), kwargs=None, *,
  |                 daemon=None):
  |        self._target = target
  |        self._args = args
  |        self._kwargs = kwargs or dict()
  |        if name is None:
  |            _count[0] += 1
  |            name = 'Thread-%d' % _count[0]
  |            if target is not None:
  |                name += ' (%s)' % getattr(target, '__name__', '')
  |        self.name = str(name)
  |        self.daemon = bool(daemon)
  |        self.ident = None
  |        self._started = False
  |    def start(self):
  |        if self._started:
  |            raise RuntimeError('threads can only be started once')
  |        self._started = True
  |        self.ident = _count[0] + 1
  |        before = _current[0]
  |        _current[0] = self
  |        try:
  |            self.run()
  |        except SystemExit:
  |            pass
  |        except Exception:
  |            excepthook(None)
  |        finally:
  |            _current[0] = before
  |    def run(self):
  |        if self._target:
  |            self._target(*self._args, **self._kwargs)
  |    def join(self, timeout=None):
  |        if not self._started:
  |            raise RuntimeError('cannot join thread before it is started')
  |    def is_alive(self):
  |        return False
  |    def isDaemon(self):
  |        return self.daemon
  |    def setDaemon(self, daemonic):
  |        self.daemon = daemonic
  |    def getName(self):
  |        return self.name
  |    def setName(self, name):
  |        self.name = name
  |
  |class Timer(Thread):
  |    def __init__(self, interval, function, args=None, kwargs=None):
  |        super().__init__(target=function, args=args or (), kwargs=kwargs)
  |    def cancel(self):
  |        self._target = None
  |
  |def excepthook(args):
  |    pass
  |
  |_main = Thread(name='MainThread')
  |_main._started = True
  |_current = [_main]
  |
  |class local:
  |    pass
  |
  |def current_thread():
  |    return _current[0]
  |
  |currentThread = current_thread
  |
  |def main_thread():
  |    return _main
  |
  |def active_count():
  |    return 1
  |
  |def enumerate():
  |    return [_main]
  |
  |def get_ident():
  |    return 1
  |
  |get_native_id = get_ident
  |
  |def stack_size(size=0):
  |    return 0
  |
  |def settrace(func):
  |    pass"#

/-- Queues between tasks. -/
def queues : String := r#"
  |import heapq
  |from collections import deque
  |
  |class Empty(Exception):
  |    pass
  |
  |class Full(Exception):
  |    pass
  |
  |class Queue:
  |    def __init__(self, maxsize=0):
  |        self.maxsize = maxsize
  |        self.queue = deque()
  |        self.unfinished_tasks = 0
  |    def qsize(self):
  |        return len(self.queue)
  |    def empty(self):
  |        return not self.queue
  |    def full(self):
  |        return 0 < self.maxsize <= len(self.queue)
  |    def _put(self, item):
  |        self.queue.append(item)
  |    def _get(self):
  |        return self.queue.popleft()
  |    def put(self, item, block=True, timeout=None):
  |        if self.full():
  |            raise Full
  |        self._put(item)
  |        self.unfinished_tasks += 1
  |    def get(self, block=True, timeout=None):
  |        if not self.queue:
  |            raise Empty
  |        return self._get()
  |    def put_nowait(self, item):
  |        return self.put(item, False)
  |    def get_nowait(self):
  |        return self.get(False)
  |    def task_done(self):
  |        if self.unfinished_tasks <= 0:
  |            raise ValueError('task_done() called too many times')
  |        self.unfinished_tasks -= 1
  |    def join(self):
  |        pass
  |
  |SimpleQueue = Queue
  |
  |class LifoQueue(Queue):
  |    def _get(self):
  |        return self.queue.pop()
  |
  |class PriorityQueue(Queue):
  |    def __init__(self, maxsize=0):
  |        super().__init__(maxsize)
  |        self.queue = []
  |    def _put(self, item):
  |        heapq.heappush(self.queue, item)
  |    def _get(self):
  |        return heapq.heappop(self.queue)"#

def taskLibraries : String := r#"
  |__path__ = []"#

/-- Results of tasks. -/
def results : String := r#"
  |FIRST_COMPLETED = 'FIRST_COMPLETED'
  |FIRST_EXCEPTION = 'FIRST_EXCEPTION'
  |ALL_COMPLETED = 'ALL_COMPLETED'
  |
  |class CancelledError(Exception):
  |    pass
  |
  |TimeoutError = TimeoutError
  |
  |class Future:
  |    def __init__(self):
  |        self._result = None
  |        self._exception = None
  |    def done(self):
  |        return True
  |    def running(self):
  |        return False
  |    def cancelled(self):
  |        return False
  |    def cancel(self):
  |        return False
  |    def result(self, timeout=None):
  |        if self._exception is not None:
  |            raise self._exception
  |        return self._result
  |    def exception(self, timeout=None):
  |        return self._exception
  |    def add_done_callback(self, fn):
  |        fn(self)
  |    def set_result(self, result):
  |        self._result = result
  |    def set_exception(self, exception):
  |        self._exception = exception
  |
  |class Executor:
  |    def __init__(self, max_workers=None, *args, **kwargs):
  |        pass
  |    def submit(self, fn, /, *args, **kwargs):
  |        future = Future()
  |        try:
  |            future.set_result(fn(*args, **kwargs))
  |        except BaseException as e:
  |            future.set_exception(e)
  |        return future
  |    def map(self, fn, *iterables, timeout=None, chunksize=1):
  |        futures = [self.submit(fn, *args) for args in zip(*iterables)]
  |        def results():
  |            for future in futures:
  |                yield future.result()
  |        return results()
  |    def shutdown(self, wait=True, *, cancel_futures=False):
  |        pass
  |    def __enter__(self):
  |        return self
  |    def __exit__(self, *rest):
  |        return False
  |
  |class ThreadPoolExecutor(Executor):
  |    pass
  |
  |class ProcessPoolExecutor(Executor):
  |    pass
  |
  |def as_completed(fs, timeout=None):
  |    return iter(list(fs))
  |
  |def wait(fs, timeout=None, return_when=ALL_COMPLETED):
  |    from collections import namedtuple
  |    return namedtuple('DoneAndNotDoneFutures', 'done not_done')(set(fs), set())"#

/-- Tasks in processes. -/
def processes : String := r#"
  |from concurrent.futures import Executor as _Executor
  |from queue import Queue, Queue as JoinableQueue, SimpleQueue
  |from threading import Thread as Process, Lock, RLock, Event, Semaphore, current_thread
  |
  |def cpu_count():
  |    return 4
  |
  |def current_process():
  |    return current_thread()
  |
  |class Pool:
  |    def __init__(self, processes=None, initializer=None, initargs=(), **rest):
  |        if initializer is not None:
  |            initializer(*initargs)
  |    def map(self, func, iterable, chunksize=None):
  |        return [func(item) for item in iterable]
  |    def imap(self, func, iterable, chunksize=1):
  |        return iter(self.map(func, iterable))
  |    imap_unordered = imap
  |    def starmap(self, func, iterable, chunksize=None):
  |        return [func(*args) for args in iterable]
  |    def apply(self, func, args=(), kwds=dict()):
  |        return func(*args, **kwds)
  |    def apply_async(self, func, args=(), kwds=dict(), callback=None, error_callback=None):
  |        future = _Executor().submit(func, *args, **kwds)
  |        future.get = future.result
  |        return future
  |    def close(self):
  |        pass
  |    terminate = join = close
  |    def __enter__(self):
  |        return self
  |    def __exit__(self, *rest):
  |        pass
  |
  |def freeze_support():
  |    pass
  |
  |def set_start_method(method, force=False):
  |    pass
  |
  |def get_context(method=None):
  |    import multiprocessing
  |    return multiprocessing"#

/-- What can be found out about values. -/
def inspection : String := r#"
  |import types
  |_empty = object()
  |
  |class Parameter:
  |    empty = _empty
  |    POSITIONAL_ONLY, POSITIONAL_OR_KEYWORD, VAR_POSITIONAL, KEYWORD_ONLY, VAR_KEYWORD = range(5)
  |
  |def ismodule(object):
  |    return isinstance(object, types.ModuleType)
  |
  |def isclass(object):
  |    return isinstance(object, type)
  |
  |def isfunction(object):
  |    return isinstance(object, types.FunctionType)
  |
  |def ismethod(object):
  |    return isinstance(object, types.MethodType)
  |
  |def isbuiltin(object):
  |    return isinstance(object, types.BuiltinFunctionType)
  |
  |def isroutine(object):
  |    return isfunction(object) or ismethod(object) or isbuiltin(object)
  |
  |def isgenerator(object):
  |    return isinstance(object, types.GeneratorType)
  |
  |def isabstract(object):
  |    return False
  |
  |def iscoroutinefunction(obj):
  |    return False
  |
  |def isawaitable(object):
  |    return False
  |
  |def getmembers(object, predicate=None):
  |    found = []
  |    for name in dir(object):
  |        try:
  |            value = getattr(object, name)
  |        except AttributeError:
  |            continue
  |        if predicate is None or predicate(value):
  |            found.append((name, value))
  |    return sorted(found, key=lambda pair: pair[0])
  |
  |def getmro(cls):
  |    return cls.__mro__
  |
  |def getmodule(object, _filename=None):
  |    return None
  |
  |def cleandoc(doc):
  |    lines = doc.expandtabs().split('\n')
  |    margin = min([len(l) - len(l.lstrip()) for l in lines[1:] if l.strip()] or [0])
  |    lines = [lines[0].lstrip()] + [l[margin:] for l in lines[1:]]
  |    while lines and not lines[-1]:
  |        lines.pop()
  |    while lines and not lines[0]:
  |        lines.pop(0)
  |    return '\n'.join(lines)
  |
  |def getdoc(object):
  |    doc = getattr(object, '__doc__', None)
  |    return cleandoc(doc) if isinstance(doc, str) else None
  |
  |def currentframe():
  |    return None
  |
  |def stack(context=1):
  |    return []
  |
  |def unwrap(func, *, stop=None):
  |    while hasattr(func, '__wrapped__'):
  |        func = func.__wrapped__
  |    return func"#

/-- Values that nothing leads to. -/
def leftovers : String := r#"
  |garbage = []
  |
  |def collect(generation=2):
  |    return 0
  |
  |def enable():
  |    pass
  |
  |def disable():
  |    pass
  |
  |def isenabled():
  |    return True
  |
  |def get_objects(generation=None):
  |    return []
  |
  |def freeze():
  |    pass
  |
  |def get_count():
  |    return (0, 0, 0)
  |
  |def set_threshold(*args):
  |    pass"#

/-- Places that do not keep values. -/
def weakPlaces : String := r#"
  |class ref:
  |    def __init__(self, object, callback=None):
  |        self._object = object
  |    def __call__(self):
  |        return self._object
  |
  |ReferenceType = ref
  |
  |def proxy(object, callback=None):
  |    return object
  |
  |class WeakValueDictionary(dict):
  |    pass
  |
  |class WeakKeyDictionary(dict):
  |    pass
  |
  |class WeakSet(set):
  |    pass
  |
  |WeakMethod = ref
  |
  |class finalize:
  |    def __init__(self, obj, func, /, *args, **kwargs):
  |        self._call = (func, args, kwargs)
  |        self.alive = True
  |        import atexit
  |        atexit.register(self)
  |    def __call__(self):
  |        if self.alive:
  |            self.alive = False
  |            func, args, kwargs = self._call
  |            return func(*args, **kwargs)
  |    def detach(self):
  |        self.alive = False"#

def otherScripts : String := r#"
  |import sys
  |
  |def run_path(path_name, init_globals=None, run_name='<run_path>'):
  |    names = dict(init_globals or dict())
  |    names['__name__'] = run_name
  |    names['__file__'] = path_name
  |    with open(path_name) as f:
  |        exec(compile(f.read(), path_name, 'exec'), names)
  |    return names
  |
  |def run_module(mod_name, init_globals=None, run_name=None, alter_sys=False):
  |    __import__(mod_name)
  |    return vars(sys.modules[mod_name])"#

def loading : String := r#"
  |import sys
  |
  |def import_module(name, package=None):
  |    level = 0
  |    while name[level:level + 1] == '.':
  |        level += 1
  |    if level:
  |        base = package.split('.')
  |        base = base[:len(base) - level + 1]
  |        name = '.'.join(base + ([name[level:]] if name[level:] else []))
  |    __import__(name)
  |    return sys.modules[name]
  |
  |def reload(module):
  |    return module
  |
  |def invalidate_caches():
  |    pass"#

/-- Loading libraries from files. -/
def loadingFiles : String := r#"
  |import sys
  |
  |class _Spec:
  |    def __init__(self, name, origin):
  |        self.name = name
  |        self.origin = origin
  |        self.loader = self
  |        self.submodule_search_locations = None
  |    def exec_module(self, module):
  |        with open(self.origin) as f:
  |            exec(compile(f.read(), self.origin, 'exec'), module.__dict__)
  |
  |def find_spec(name, package=None):
  |    try:
  |        __import__(name)
  |    except ImportError:
  |        return None
  |    return _Spec(name, None)
  |
  |def spec_from_file_location(name, location=None, *, loader=None,
  |                            submodule_search_locations=None):
  |    return _Spec(name, str(location))
  |
  |def module_from_spec(spec):
  |    from types import SimpleNamespace
  |    return SimpleNamespace(__name__=spec.name, __file__=spec.origin)"#

def features : String := r#"
  |class _Feature:
  |    def __init__(self, *facts):
  |        self.facts = facts
  |
  |annotations = division = print_function = absolute_import = unicode_literals = _Feature()
  |nested_scopes = generators = with_statement = generator_stop = barry_as_FLUFL = _Feature()
  |all_feature_names = ['nested_scopes', 'generators', 'division', 'absolute_import',
  |                     'with_statement', 'print_function', 'unicode_literals', 'barry_as_FLUFL',
  |                     'generator_stop', 'annotations']"#

end BuiltinWrappers.Script.Indented.Library
